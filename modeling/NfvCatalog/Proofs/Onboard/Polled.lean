import Mathlib.Algebra.Order.Floor.Div
import Mathlib.Data.List.Chain
import NfvCatalog.Onboard.Upload

/-! # Waiting for a transaction

The state of a transaction is asked for until a reply tells what has become of it, or finds it
pending when the time is over. If a full interval lies between any two replies, the time bounds the
number of questions, and the wait comes to an end. Of the events in a reply those are announced that
are new.
-/

namespace NfvCatalog

/-! ## Replies -/

namespace StateReply

/-- The transaction is pending. -/
def IsPending (reply : StateReply) : Prop :=
  reply.reply.toOption.map (·.status) = some .pending

instance (reply : StateReply) : Decidable reply.IsPending := inferInstanceAs (Decidable (_ = _))

/-- What a reply that is not pending tells about a transaction. -/
inductive Tells (transaction : String) : StateReply → Except OnboardError (List String) → Prop
  | success {state : UploadState} {elapsed : Nat} (status : state.status = .success) :
      Tells transaction ⟨.ok state, elapsed⟩ (.ok state.eventTexts)
  | failure {state : UploadState} {elapsed : Nat} (status : state.status = .failure) :
      Tells transaction ⟨.ok state, elapsed⟩ (.error (.failed transaction state.eventTexts))
  | noState {error : OnboardError} {elapsed : Nat} :
      Tells transaction ⟨.error error, elapsed⟩ (.error error)

theorem Tells.not_isPending {transaction : String} {reply : StateReply}
    {result : Except OnboardError (List String)} (tells : reply.Tells transaction result) :
    ¬ reply.IsPending := by
  intro pending
  cases tells with
  | success status | failure status => simp [IsPending, Except.toOption, status] at pending
  | noState => cases pending

/-- Replies with a full interval from each one to the next. -/
def Paced (interval : Nat) (replies : List StateReply) : Prop :=
  replies.IsChain fun reply next => reply.elapsed + interval ≤ next.elapsed

/-- So many full intervals have passed when a reply arrives as there are replies before it. -/
theorem Paced.mul_le_elapsed {interval place : Nat} {replies : List StateReply} {reply : StateReply}
    (paced : Paced interval replies) (there : replies[place]? = some reply) :
    interval * place ≤ reply.elapsed := by
  induction place generalizing reply with
  | zero => simp
  | succ place ih =>
    obtain ⟨inside, rfl⟩ := List.getElem?_eq_some_iff.mp there
    have before := ih (List.getElem?_eq_getElem (by omega))
    have pause := List.isChain_iff_getElem.mp paced place inside
    rw [Nat.mul_succ]
    omega

end StateReply

namespace Upload

/-! ## The course of a wait -/

/-- How a wait goes: the replies that were asked for, and what came of it. Nothing comes of it when
there are no more replies. -/
inductive Wait (timeout : Nat) (transaction : String) :
    List StateReply → Option (Except OnboardError (List String)) → Prop
  | running : Wait timeout transaction [] none
  | told {reply : StateReply} {result : Except OnboardError (List String)}
      (tells : reply.Tells transaction result) : Wait timeout transaction [reply] (some result)
  | timedOut {reply : StateReply} (pending : reply.IsPending) (late : timeout ≤ reply.elapsed) :
      Wait timeout transaction [reply] (some (.error (.timeout transaction reply.elapsed)))
  | later {reply : StateReply} {asked : List StateReply}
      {result : Option (Except OnboardError (List String))} (pending : reply.IsPending)
      (early : reply.elapsed < timeout) (rest : Wait timeout transaction asked result) :
      Wait timeout transaction (reply :: asked) result

variable {timeout : Nat} {transaction : String}

/-- Asking follows the course of a wait, whatever events were seen before, and goes on to the last
reply if nothing has come of it. -/
theorem wait_pollFrom (seen : Nat) (replies : List StateReply) :
    let report := pollFrom timeout transaction seen replies
    Wait timeout transaction (replies.take report.asked) report.result ∧
      report.asked ≤ replies.length ∧ (report.result = none → report.asked = replies.length) := by
  induction replies generalizing seen with
  | nil => exact ⟨.running, Nat.le_refl 0, fun _ => rfl⟩
  | cons reply rest ih =>
    obtain ⟨reply, elapsed⟩ := reply
    have one : 1 ≤ rest.length + 1 := by omega
    cases reply with
    | error error => exact ⟨.told .noState, one, nofun⟩
    | ok state =>
      cases status : state.status with
      | success =>
        simp only [pollFrom, status]
        exact ⟨.told (.success status), one, nofun⟩
      | failure =>
        simp only [pollFrom, status]
        exact ⟨.told (.failure status), one, nofun⟩
      | pending =>
        have pending : StateReply.IsPending ⟨.ok state, elapsed⟩ := congrArg some status
        by_cases late : timeout ≤ elapsed
        · simp only [pollFrom, status, late, if_true]
          exact ⟨.timedOut pending late, one, nofun⟩
        · simp only [pollFrom, status, late, if_false]
          obtain ⟨waits, within, all⟩ := ih state.events.length
          refine ⟨.later pending (Nat.lt_of_not_le late) waits, Nat.succ_le_succ within, ?_⟩
          intro running
          exact congrArg Nat.succ (all running)

namespace Wait

variable {asked : List StateReply} {result : Option (Except OnboardError (List String))}

/-- A reply that is not pending is the last one that is asked for, and tells the result. -/
theorem told_of_not_isPending (waits : Wait timeout transaction asked result) {reply : StateReply}
    (found : asked.find? (fun reply => ¬ reply.IsPending) = some reply) :
    ∃ told, reply.Tells transaction told ∧ result = some told := by
  induction waits with
  | running => cases found
  | told tells =>
    rw [List.find?_cons_of_pos (by simpa using tells.not_isPending)] at found
    obtain rfl := Option.some.inj found
    exact ⟨_, tells, rfl⟩
  | timedOut pending =>
    rw [List.find?_cons_of_neg (by simpa using pending)] at found
    cases found
  | later pending _ _ ih =>
    rw [List.find?_cons_of_neg (by simpa using pending)] at found
    exact ih found

/-- If all replies are pending, the wait is not over, or the time was over at the last one. -/
theorem timedOut_of_isPending (waits : Wait timeout transaction asked result)
    (pending : ∀ reply ∈ asked, reply.IsPending) :
    result = none ∨ ∃ last, asked.getLast? = some last ∧ timeout ≤ last.elapsed ∧
      result = some (.error (.timeout transaction last.elapsed)) := by
  induction waits with
  | running => exact .inl rfl
  | told tells => exact absurd (pending _ (List.mem_singleton_self _)) tells.not_isPending
  | @timedOut reply _ late => exact .inr ⟨reply, rfl, late, rfl⟩
  | later _ _ _ ih =>
    rcases ih fun reply member => pending reply (List.mem_cons_of_mem _ member) with
      running | ⟨last, isLast, late, timedOut⟩
    · exact .inl running
    · refine .inr ⟨last, ?_, late, timedOut⟩
      rw [List.getLast?_cons, isLast, Option.getD_some]

/-- All replies but the last are pending and early. -/
theorem early_of_mem_dropLast (waits : Wait timeout transaction asked result) :
    ∀ reply ∈ asked.dropLast, reply.IsPending ∧ reply.elapsed < timeout := by
  induction waits with
  | running | told | timedOut => simp
  | @later reply asked _ pending early _ ih =>
    cases asked with
    | nil => simp
    | cons next others =>
      rw [List.dropLast_cons_cons]
      exact List.forall_mem_cons.mpr ⟨⟨pending, early⟩, ih⟩

/-- As long as nothing has come of the wait, all replies are early. -/
theorem early_of_running (waits : Wait timeout transaction asked none) :
    ∀ reply ∈ asked, reply.elapsed < timeout := by
  generalize running : (none : Option (Except OnboardError (List String))) = result at waits
  induction waits with
  | running => simp
  | told | timedOut => cases running
  | later _ early _ ih => exact List.forall_mem_cons.mpr ⟨early, ih running⟩

end Wait

/-! ## The number of questions -/

/-- There are no more early replies than intervals that have begun before the time is over. -/
theorem length_le_of_early {interval : Nat} (positive : 0 < interval) {replies : List StateReply}
    (paced : StateReply.Paced interval replies)
    (early : ∀ reply ∈ replies, reply.elapsed < timeout) :
    replies.length ≤ timeout ⌈/⌉ interval := by
  by_contra more
  obtain ⟨place, last⟩ : ∃ place, replies.length = place + 1 := ⟨replies.length - 1, by omega⟩
  obtain ⟨reply, there⟩ : ∃ reply, replies[place]? = some reply :=
    ⟨_, List.getElem?_eq_getElem (by omega)⟩
  have passed := paced.mul_le_elapsed there
  have within := early reply (List.mem_of_getElem? there)
  have enough : timeout ≤ interval * place :=
    (ceilDiv_le_iff_le_mul positive).mp (by omega)
  omega

/-- Waiting ends with the first reply that is not pending, and tells what it tells. It ends with a
timeout only if all replies were pending, and the time was over at the last one and at none before
it; unless such an error is what a reply brought. With a full interval between replies there is at
most one question more than there are intervals in the time, and a result if there are so many
replies. -/
theorem poll_reports (timeout : Nat) (transaction : String) (replies : List StateReply) :
    let report := poll timeout transaction replies
    let asked := replies.take report.asked
    (∀ reply, asked.find? (fun reply => ¬ reply.IsPending) = some reply →
      ∃ told, reply.Tells transaction told ∧ report.result = some told) ∧
    (asked.find? (fun reply => ¬ reply.IsPending) = none →
      report.result = none ∧ asked = replies ∨
        ∃ last, asked.getLast? = some last ∧ timeout ≤ last.elapsed ∧
          report.result = some (.error (.timeout transaction last.elapsed))) ∧
    (∀ other waited, report.result = some (.error (.timeout other waited)) →
      (∀ reply ∈ asked, ¬ reply.Tells transaction (.error (.timeout other waited))) →
      (∀ reply ∈ asked, reply.IsPending) ∧
        ∃ last, asked.getLast? = some last ∧ timeout ≤ last.elapsed) ∧
    (∀ reply ∈ asked.dropLast, reply.IsPending ∧ reply.elapsed < timeout) ∧
    ∀ interval, 0 < interval → StateReply.Paced interval replies →
      report.asked ≤ timeout ⌈/⌉ interval + 1 ∧
        (timeout ⌈/⌉ interval < replies.length → report.result ≠ none) := by
  intro report asked
  obtain ⟨waits, within, all⟩ : Wait timeout transaction asked report.result ∧
      report.asked ≤ replies.length ∧ (report.result = none → report.asked = replies.length) :=
    wait_pollFrom 0 replies
  have whole (running : report.result = none) : asked = replies := by
    rw [show asked = replies.take report.asked from rfl, all running, List.take_length]
  have pending (none : asked.find? (fun reply => ¬ reply.IsPending) = none) :
      ∀ reply ∈ asked, reply.IsPending := by
    simpa using none
  refine ⟨fun reply => waits.told_of_not_isPending, fun none => ?_,
    fun other waited timedOut own => ?_, waits.early_of_mem_dropLast,
    fun interval positive paced => ?_⟩
  · exact (waits.timedOut_of_isPending (pending none)).imp_left fun running =>
      ⟨running, whole running⟩
  · cases found : asked.find? (fun reply => ¬ reply.IsPending) with
    | some reply =>
      obtain ⟨told, tells, result⟩ := waits.told_of_not_isPending found
      obtain rfl := Option.some.inj (result.symm.trans timedOut)
      exact absurd tells (own reply (List.mem_of_find?_eq_some found))
    | none =>
      rcases waits.timedOut_of_isPending (pending found) with running | ⟨last, isLast, late, -⟩
      · cases running.symm.trans timedOut
      · exact ⟨pending found, last, isLast, late⟩
  · constructor
    · have before : asked.dropLast.length ≤ timeout ⌈/⌉ interval :=
        length_le_of_early positive ((paced.take _).dropLast) fun reply member =>
          (waits.early_of_mem_dropLast reply member).2
      rw [List.length_dropLast, List.length_take_of_le within] at before
      omega
    · intro enough running
      rw [whole running, running] at waits
      have few := length_le_of_early positive paced waits.early_of_running
      omega

/-- A transaction that is pending at first, and whose success is told after more than four
seconds. -/
def slowReplies : List StateReply :=
  [⟨.ok { status := .pending }, 0⟩, ⟨.ok { status := .pending }, 2000⟩,
    ⟨.ok { status := .success, events := [{ text := "onboarded" }] }, 4100⟩]

/-- Waiting for four seconds is enough, as the last question is asked before they are over. Waiting
for two is not. -/
theorem slowReplies_reported :
    StateReply.Paced 2000 slowReplies ∧ (poll 4000 "42" slowReplies).asked ≤ 3 ∧
      (poll 4000 "42" slowReplies).result = some (.ok ["onboarded"]) ∧
      (poll 2000 "42" slowReplies).asked ≤ 2 ∧
      (poll 2000 "42" slowReplies).result = some (.error (.timeout "42" 2000)) := by
  have paced : StateReply.Paced 2000 slowReplies := by
    simp [StateReply.Paced, slowReplies]
  obtain ⟨tells, -, -, -, four⟩ := poll_reports 4000 "42" slowReplies
  obtain ⟨-, waits, -, -, two⟩ := poll_reports 2000 "42" slowReplies
  refine ⟨paced, (four 2000 (by decide) paced).1, ?_, (two 2000 (by decide) paced).1, ?_⟩
  · obtain ⟨told, told_eq, result⟩ := tells _ rfl
    cases told_eq with
    | success => exact result
    | failure status => cases status
  · rcases waits rfl with ⟨running, -⟩ | ⟨last, isLast, -, timedOut⟩
    · cases running
    · obtain rfl := Option.some.inj isLast
      exact timedOut

end Upload

end NfvCatalog

/-! ## Events that are announced

Every reply of an upload server lists all events so far. While a transaction is followed, only those
behind the number of events in the reply before are announced. If the lists grow at their ends, by
however many events or by none, no event is announced twice and none is left out.
-/

namespace NfvCatalog

/-- The text of a message. -/
def ProgressEvent.message? : ProgressEvent → Option String
  | .message text => some text
  | _ => none

namespace UploadState

/-- The texts behind those of a state with the first of the events are those of the new ones. -/
theorem eventTexts_append_drop {before state : UploadState}
    (grown : before.events <+: state.events) :
    before.eventTexts ++ state.eventTexts.drop before.events.length = state.eventTexts := by
  obtain ⟨new, events⟩ := grown
  simp [eventTexts, ← events]

end UploadState

namespace StateReply

/-- The states that replies tell, in order. -/
def states (replies : List StateReply) : List UploadState :=
  replies.filterMap (·.reply.toOption)

/-- The events of every state go on with those of the next one. -/
def Growing (replies : List StateReply) : Prop :=
  (states replies).IsChain fun state next => state.events <+: next.events

instance (replies : List StateReply) : Decidable (Growing replies) :=
  inferInstanceAs (Decidable (List.IsChain _ _))

/-- The last state that was told, or else the one before. -/
def lastState (before : UploadState) (replies : List StateReply) : UploadState :=
  (states replies).getLast?.getD before

@[simp] theorem lastState_nil (before : UploadState) : lastState before [] = before := rfl

@[simp] theorem lastState_cons_error (before : UploadState) (error : OnboardError) (elapsed : Nat)
    (replies : List StateReply) :
    lastState before (⟨.error error, elapsed⟩ :: replies) = lastState before replies := rfl

@[simp] theorem lastState_cons_ok (before state : UploadState) (elapsed : Nat)
    (replies : List StateReply) :
    lastState before (⟨.ok state, elapsed⟩ :: replies) = lastState state replies := by
  show (state :: states replies).getLast?.getD before = _
  rw [List.getLast?_cons, Option.getD_some, lastState]

end StateReply

namespace PollReport

/-- Together with some texts before them, all texts of a state are announced, and they are what a
success returns. There is one exactly if the state is a success. -/
structure Announces (report : PollReport) (before : List String) (state : UploadState) : Prop where
  shown : before ++ report.shown = state.eventTexts
  returned : ∀ texts, report.result = some (.ok texts) ↔
    state.status = .success ∧ texts = state.eventTexts

/-- A wait that tells nothing more stays at a state. -/
theorem announces_of_pending {report : PollReport} {state : UploadState}
    (nothing : report.shown = []) (unfinished : ∀ texts, report.result ≠ some (.ok texts))
    (pending : state.status = .pending) : report.Announces state.eventTexts state where
  shown := by rw [nothing, List.append_nil]
  returned texts := by simp [unfinished texts, pending]

variable {before state : UploadState} (grown : before.events <+: state.events)
include grown

/-- A wait that ends with a state announces the rest of it. -/
theorem announces_finished {result : Except OnboardError (List String)}
    (told : ∀ texts, result = .ok texts ↔ state.status = .success ∧ texts = state.eventTexts) :
    (finished (state.eventTexts.drop before.events.length) result).Announces before.eventTexts
      state where
  shown := UploadState.eventTexts_append_drop grown
  returned texts := by rw [finished, Option.some_inj, told]

/-- A wait that goes on announces the rest of a state, and then the rest of a later one. -/
theorem Announces.after {report : PollReport} {last : UploadState}
    (rest : report.Announces state.eventTexts last) :
    (report.after (state.eventTexts.drop before.events.length)).Announces before.eventTexts
      last where
  shown := by
    rw [PollReport.after, ← List.append_assoc, UploadState.eventTexts_append_drop grown]
    exact rest.shown
  returned := rest.returned

end PollReport

namespace Upload

open StateReply

/-- After the events of a pending state were announced, asking on announces the rest of the last
state that is told. -/
theorem announces_pollFrom (timeout : Nat) (transaction : String) {before : UploadState}
    {replies : List StateReply} (pending : before.status = .pending)
    (growing : (before :: states replies).IsChain fun state next => state.events <+: next.events) :
    let report := pollFrom timeout transaction before.events.length replies
    report.Announces before.eventTexts (lastState before (replies.take report.asked)) := by
  induction replies generalizing before with
  | nil => exact PollReport.announces_of_pending rfl nofun pending
  | cons reply rest ih =>
    obtain ⟨error | state, elapsed⟩ := reply
    · exact PollReport.announces_of_pending rfl nofun pending
    · obtain ⟨grown, growing⟩ := List.isChain_cons_cons.mp growing
      simp only [pollFrom]
      cases status : state.status with
      | success =>
        exact PollReport.announces_finished grown fun texts => by simp [status, eq_comm]
      | failure => exact PollReport.announces_finished grown fun texts => by simp [status]
      | pending =>
        by_cases late : timeout ≤ elapsed
        · simp only [late, if_true]
          exact PollReport.announces_finished grown fun texts => by simp [status]
        · simp only [late, if_false, PollReport.after, List.take_succ_cons, lastState_cons_ok]
          exact (ih status growing).after grown

/-- While a transaction is followed, its messages are the texts of the events in the last state that
is told: all of them, in their order, each once. If that state is a success, they are returned, and
otherwise nothing is. -/
theorem poll_announces (options : UploadOptions) (path transaction : String)
    (replies : List StateReply) (growing : Growing replies) :
    let report := poll options.timeout transaction replies
    let last := lastState { status := .pending } (replies.take report.asked)
    report.shown = last.eventTexts ∧
      (∀ texts, report.result = some (.ok texts) ↔
        last.status = .success ∧ texts = last.eventTexts) ∧
      (options.wait = true →
        (follow options path transaction replies).events.filterMap ProgressEvent.message? =
          last.eventTexts) := by
  intro report last
  have start : (({ status := .pending } : UploadState) :: states replies).IsChain
      fun state next => state.events <+: next.events :=
    List.isChain_cons.mpr ⟨fun _ _ => List.nil_prefix, growing⟩
  obtain ⟨shown, returned⟩ : report.Announces [] last :=
    announces_pollFrom options.timeout transaction rfl start
  refine ⟨shown, returned, fun waits => ?_⟩
  have ending (result : Option (Except OnboardError (List String))) :
      (lastEvents path result).filterMap ProgressEvent.message? = [] := by
    obtain _ | _ | _ := result <;> rfl
  have messages : (report.shown.map ProgressEvent.message).filterMap ProgressEvent.message? =
      report.shown := by
    rw [List.filterMap_map]
    exact List.filterMap_some
  rw [follow, if_pos waits]
  simp only [List.filterMap_append, ending, List.append_nil]
  exact messages.trans shown

/-- Replies about a transaction with no event, one, the same one, and two more at once. -/
def growingReplies : List StateReply :=
  let state (status : UploadStatus) (texts : List String) : UploadState :=
    { status := status, events := texts.map fun text => { text := text } }
  [⟨.ok (state .pending []), 0⟩, ⟨.ok (state .pending ["received"]), 500⟩,
    ⟨.ok (state .pending ["received"]), 1000⟩,
    ⟨.ok (state .success ["received", "checked", "onboarded"]), 1500⟩]

theorem growingReplies_announced :
    Growing growingReplies ∧
      (poll 300000 "t-1" growingReplies).result =
        some (.ok ["received", "checked", "onboarded"]) ∧
      (follow {} "nsd.yaml" "t-1" growingReplies).events.filterMap ProgressEvent.message? =
        ["received", "checked", "onboarded"] := by
  have growing : Growing growingReplies := by decide
  obtain ⟨-, returned, messages⟩ := poll_announces {} "nsd.yaml" "t-1" growingReplies growing
  exact ⟨growing, (returned _).mpr ⟨rfl, rfl⟩, messages rfl⟩

end Upload

end NfvCatalog
