import SqlMapper.Proofs.Session.History

/-!
# No change is left behind

A session without autocommit is clean when nothing is left to commit or to
roll back, and dirty as long as there may be something. Clean is the side on
which no mistake is made: whatever fails on the way, an open session that is
clean has settled every update that it sent. Closing relies on this. It rolls
back exactly where the session is dirty, and then makes the last call that the
transaction ever gets.

## Main definitions

* `Settled` — every update in a list of calls is followed by a commit or
  rollback that succeeded.

## Main results

* `Session.settled_of_clean` — an open session that is clean has settled its
  updates.
* `Session.closes_once` — how the calls of a session end that was closed.
-/

namespace SqlMapper

/-! ## Settled updates -/

/-- The call is an update. -/
def Sent.isUpdate (sent : Sent) : Bool :=
  match sent.call with
  | .execute .. => true
  | _ => false

/-- The call is a commit or a rollback, and it succeeded. -/
def Sent.settles (sent : Sent) : Bool :=
  match sent.call with
  | .commit | .rollback => sent.succeeded
  | _ => false

/-- No update settles anything. -/
theorem Sent.isUpdate_of_settles {sent : Sent} (h : sent.settles = true) :
    sent.isUpdate = false := by
  obtain ⟨call, succeeded⟩ := sent
  cases call with
  | execute => cases h
  | _ => rfl

/-- Every update among the calls is followed by a commit or a rollback that
succeeded. -/
def Settled : List Sent → Prop
  | [] => True
  | sent :: later => (sent.isUpdate = true → ∃ s ∈ later, s.settles = true) ∧ Settled later

namespace Settled

variable {calls : List Sent} {sent : Sent}

/-- A call that is no update leaves the updates settled. -/
theorem concat (h : Settled calls) (hsent : sent.isUpdate = false) : Settled (calls ++ [sent]) := by
  induction calls with
  | nil => exact ⟨fun hupdate => absurd hupdate (by simp [hsent]), trivial⟩
  | cons first calls ih =>
      obtain ⟨hfirst, hcalls⟩ := h
      refine ⟨fun hupdate => ?_, ih hcalls⟩
      obtain ⟨s, hmem, hs⟩ := hfirst hupdate
      exact ⟨s, List.mem_append_left _ hmem, hs⟩

/-- A commit or rollback that succeeds settles all updates before it. -/
theorem of_settles (calls : List Sent) (hsent : sent.settles = true) :
    Settled (calls ++ [sent]) := by
  induction calls with
  | nil => exact concat (show Settled [] from trivial) (Sent.isUpdate_of_settles hsent)
  | cons first calls ih => exact ⟨fun _ => ⟨sent, by simp, hsent⟩, ih⟩

end Settled

namespace Session

variable {session session' : Session} {calls : List Sent} {answers : Answers}

/-! ## Clean sessions -/

theorem eq_of_openWith {answer : Except Fault Unit} {autocommit : Bool}
    (h : openWith answer autocommit = .ok session) : session = { autocommit } := by
  obtain ⟨_, -, hsession⟩ := exists_of_bind_ok h
  exact (Except.ok.inj hsession).symm

/-- The session does not commit by itself, and its updates are settled if it is
open and clean. -/
def CleanIsSettled (session : Session) : Prop :=
  session.autocommit = false ∧
    (session.executor.closed = false → session.dirty = false → Settled session.executor.sent)

/-- The dirty mark is set before an update is sent and cleared behind a commit
or rollback that succeeded, so no step takes it away too early. -/
theorem Step.cleanIsSettled (h : Step session calls session') (hs : session.CleanIsSettled) :
    session'.CleanIsSettled := by
  obtain ⟨hauto, hsettled⟩ := hs
  refine ⟨h.autocommit.trans hauto, fun hopen hclean => ?_⟩
  rw [h.closed] at hopen
  rw [h.sent]
  have heffect := h.effect
  rw [hclean] at heffect
  generalize hdirty : false = dirty at heffect
  cases heffect with
  | refuse =>
      rw [List.append_nil]
      exact hsettled hopen hdirty.symm
  | query => exact (hsettled hopen hdirty.symm).concat rfl
  | touch => cases hdirty
  | execute => cases hdirty
  | clear hidle =>
      rw [List.append_nil]
      have hneeds := hidle.resolve_left (by simp [hopen])
      refine hsettled hopen ?_
      simpa [needsTransaction, hauto] using hneeds
  | @finish call succeeded hcall =>
      cases succeeded with
      | true => exact .of_settles _ (by rcases hcall with rfl | rfl <;> rfl)
      | false => exact (hsettled hopen hdirty.symm).concat (by rcases hcall with rfl | rfl <;> rfl)

theorem CleanIsSettled.after (hs : session.CleanIsSettled) (history : List (Action × Answers)) :
    (session.after history).CleanIsSettled := by
  refine after_keeps Step.cleanIsSettled (fun {session} answers hs => ?_) history hs
  by_cases hopen : session.executor.closed = false
  · obtain ⟨-, hclosed, hauto⟩ := perform_close_of_open answers hopen
    exact ⟨hauto.trans hs.1, fun hopen' => by simp [hclosed] at hopen'⟩
  · rw [perform_close_of_closed (by simpa using hopen)]
    exact ⟨hs.1, fun hopen' => absurd hopen' hopen⟩

theorem cleanIsSettled_of_openWith {answer : Except Fault Unit}
    (h : openWith answer false = .ok session) : session.CleanIsSettled := by
  rw [eq_of_openWith h]
  exact ⟨rfl, fun _ _ => trivial⟩

/-- After any history of a session without autocommit, whichever of its actions
and of the calls to the transaction failed: while the session is open and
clean, every update that was sent is followed by a commit or a rollback that
succeeded. -/
theorem settled_of_clean {answer : Except Fault Unit} (hopened : openWith answer false = .ok session)
    (history : List (Action × Answers))
    (hopen : (session.after history).executor.closed = false)
    (hclean : (session.after history).dirty = false) :
    Settled (session.after history).executor.sent :=
  ((cleanIsSettled_of_openWith hopened).after history).2 hopen hclean

/-- A first commit fails and leaves the session dirty; the second one settles
the update. -/
theorem settled_of_clean_second_commit :
    let clear : Statement := {
      id := "m.clear", resource := "test", kind := .delete
      sql := { sql := "delete from t", mappings := [] }, parameterType := none, resultMaps := [] }
    let config : Configuration := {
      statements := { name := "", slots := [("m.clear", .entry clear)], ids := ["m.clear"] } }
    let update : Action × Answers := (.update config "m.clear" .null, {})
    let failedCommit : Action × Answers := (.commit false, { commit := .error (.database "lost") })
    let commit : Action × Answers := (.commit false, {})
    (({} : Session).after [update, failedCommit]).dirty = true ∧
      (({} : Session).after [update, failedCommit, commit]).executor.sent.map Sent.succeeded =
        [true, false, true] ∧
      Settled (({} : Session).after [update, failedCommit, commit]).executor.sent := by
  intro clear config update failedCommit commit
  refine ⟨by decide +kernel, by decide +kernel, ?_⟩
  have hopened : openWith (.ok ()) false = .ok {} := rfl
  exact settled_of_clean hopened _ (by decide +kernel) (by decide +kernel)

/-! ## Closing -/

theorem Effect.call_ne_close {dirty : Bool} (h : Effect session calls dirty) :
    ∀ sent ∈ calls, sent.call ≠ .close := by
  intro sent hmem hclose
  cases h with
  | refuse | touch | clear => cases hmem
  | query | execute =>
      rw [List.mem_singleton.mp hmem] at hclose
      cases hclose
  | finish hcall =>
      rw [List.mem_singleton.mp hmem] at hclose
      rcases hcall with rfl | rfl <;> cases hclose

/-- A closed session makes no call. -/
theorem Effect.eq_nil_of_closed {dirty : Bool} (h : Effect session calls dirty)
    (hclosed : session.executor.closed = true) : calls = [] := by
  cases h with
  | refuse | touch | clear => rfl
  | query hopen | execute hopen | finish _ hopen =>
      rw [hopen] at hclosed
      cases hclosed

/-- Whatever is asked of a closed session, the transaction does not hear of it. -/
theorem sent_after_of_closed (hclosed : session.executor.closed = true)
    (history : List (Action × Answers)) :
    (session.after history).executor.sent = session.executor.sent := by
  refine (after_keeps (P := fun s => s.executor.closed = true ∧
    s.executor.sent = session.executor.sent) (fun {s calls s'} h hs => ?_)
    (fun {s} answers hs => ?_) history ⟨hclosed, rfl⟩).2
  · refine ⟨h.closed.trans hs.1, ?_⟩
    rw [h.sent, h.effect.eq_nil_of_closed hs.1, List.append_nil, hs.2]
  · rw [perform_close_of_closed hs.1]
    exact hs

/-- Without closing, a session stays as open as it was. -/
theorem closed_after {history : List (Action × Answers)}
    (h : ∀ turn ∈ history, turn.1 ≠ .close) :
    (session.after history).executor.closed = session.executor.closed := by
  induction history generalizing session with
  | nil => rfl
  | cons turn history ih =>
      obtain ⟨calls, hstep⟩ := exists_step turn.2 session (h turn (by simp))
      exact (ih fun turn hmem => h turn (by simp [hmem])).trans hstep.closed

/-- While a session is open, its transaction was not closed. -/
theorem call_ne_close_of_open (history : List (Action × Answers))
    (hsent : ∀ sent ∈ session.executor.sent, sent.call ≠ .close)
    (hopen : (session.after history).executor.closed = false) :
    ∀ sent ∈ (session.after history).executor.sent, sent.call ≠ .close := by
  refine after_keeps (P := fun s => s.executor.closed = false →
    ∀ sent ∈ s.executor.sent, sent.call ≠ .close) (fun {s calls s'} h hs hopen => ?_)
    (fun {s} answers hs hopen => ?_) history (fun _ => hsent) hopen
  · rw [h.sent]
    intro sent hmem
    rcases List.mem_append.mp hmem with hmem | hmem
    · exact hs (h.closed.symm.trans hopen) sent hmem
    · exact h.effect.call_ne_close sent hmem
  · by_cases hstill : s.executor.closed = false
    · rw [(perform_close_of_open answers hstill).2.1] at hopen
      cases hopen
    · rw [perform_close_of_closed (by simpa using hstill)] at hopen
      exact absurd hopen hstill

/-- A history with a closing has a first one. -/
theorem exists_first_close {history : List (Action × Answers)}
    (h : (Action.close, answers) ∈ history) :
    ∃ earlier answers later, history = earlier ++ (.close, answers) :: later ∧
      ∀ turn ∈ earlier, turn.1 ≠ .close := by
  induction history with
  | nil => cases h
  | cons turn history ih =>
      by_cases hturn : turn.1 = .close
      · exact ⟨[], turn.2, history, by rw [← hturn]; rfl, by simp⟩
      · have hlater : (Action.close, answers) ∈ history := by
          rcases List.mem_cons.mp h with rfl | hmem
          · exact absurd rfl hturn
          · exact hmem
        obtain ⟨earlier, first, later, rfl, hearlier⟩ := ih hlater
        exact ⟨turn :: earlier, first, later, rfl, List.forall_mem_cons.mpr ⟨hturn, hearlier⟩⟩

theorem call_of_mem_closingRollbacks {sent : Sent} (h : sent ∈ closingRollbacks answers session) :
    sent.call = .rollback := by
  unfold closingRollbacks at h
  split at h
  · rw [List.mem_singleton.mp h]
  · cases h

/-- Closing rolls back an update that is not settled. -/
theorem closingRollbacks_ne_nil (hs : session.CleanIsSettled)
    (hopen : session.executor.closed = false) (hunsettled : ¬ Settled session.executor.sent) :
    closingRollbacks answers session ≠ [] := by
  have hdirty : session.dirty = true := by
    rw [← Bool.not_eq_false]
    intro hclean
    exact hunsettled (hs.2 hopen hclean)
  have hneeds : session.needsTransaction false = true := by
    rw [needsTransaction, hs.1, hdirty]
    rfl
  rw [closingRollbacks, hneeds, if_pos rfl]
  exact List.cons_ne_nil _ _

/-- Let a session be closed or dropped at some time of its history; it may have
been closed before and may be used and closed again. Then its calls are those
before the first closing, rollbacks of the closing, and one close. No call
before that is a close and no call follows it. Without autocommit, there is a
rollback if an update sent before the closing was not followed by a commit or
rollback that succeeded, whichever calls failed. -/
theorem closes_once {answer : Except Fault Unit} {autocommit : Bool}
    (hopened : openWith answer autocommit = .ok session) {history : List (Action × Answers)}
    (hclose : (Action.close, answers) ∈ history) :
    ∃ earlier closingAnswers later rollbacks closing,
      history = earlier ++ (.close, closingAnswers) :: later ∧
      (∀ turn ∈ earlier, turn.1 ≠ .close) ∧
      (session.after history).executor.sent =
        (session.after earlier).executor.sent ++ rollbacks ++ [closing] ∧
      closing.call = .close ∧
      (∀ sent ∈ (session.after earlier).executor.sent ++ rollbacks, sent.call ≠ .close) ∧
      (∀ sent ∈ rollbacks, sent.call = .rollback) ∧
      (autocommit = false → ¬ Settled (session.after earlier).executor.sent → rollbacks ≠ []) := by
  obtain ⟨earlier, closingAnswers, later, rfl, hearlier⟩ := exists_first_close hclose
  have hopen : (session.after earlier).executor.closed = false := by
    rw [closed_after hearlier, eq_of_openWith hopened]
  obtain ⟨hsent, hclosed, -⟩ := perform_close_of_open closingAnswers hopen
  refine ⟨earlier, closingAnswers, later, closingRollbacks closingAnswers (session.after earlier),
    { call := .close, succeeded := closingAnswers.close.toBool }, rfl, hearlier, ?_, rfl, ?_,
    fun sent => call_of_mem_closingRollbacks, ?_⟩
  · rw [after_append]
    exact (sent_after_of_closed hclosed later).trans hsent
  · intro sent hmem
    rcases List.mem_append.mp hmem with hmem | hmem
    · refine call_ne_close_of_open earlier ?_ hopen sent hmem
      rw [eq_of_openWith hopened]
      simp
    · rw [call_of_mem_closingRollbacks hmem]
      simp
  · rintro rfl hunsettled
    have hsettled := (cleanIsSettled_of_openWith hopened).after earlier
    exact closingRollbacks_ne_nil hsettled hopen hunsettled

/-- A session is closed with an update that is not settled and a transaction
that fails to roll back, and is then used and closed again. -/
theorem closes_once_failed_rollback :
    let clear : Statement := {
      id := "m.clear", resource := "test", kind := .delete
      sql := { sql := "delete from t", mappings := [] }, parameterType := none, resultMaps := [] }
    let config : Configuration := {
      statements := { name := "", slots := [("m.clear", .entry clear)], ids := ["m.clear"] } }
    let update : Action × Answers := (.update config "m.clear" .null, {})
    let failedClose : Action × Answers := (.close, { rollback := .error (.database "lost") })
    let close : Action × Answers := (.close, {})
    let updated := (({} : Session).after [update]).executor.sent
    ¬ Settled updated ∧ ∃ rollbacks closing,
      (({} : Session).after [update, failedClose, update, close]).executor.sent =
        updated ++ rollbacks ++ [closing] ∧
      closing.call = .close ∧ rollbacks ≠ [] ∧ ∀ sent ∈ rollbacks, sent.call = .rollback := by
  intro clear config update failedClose close updated
  have hunsettled : ¬ Settled updated := by
    rintro ⟨hsettled, -⟩
    obtain ⟨s, hmem, -⟩ := hsettled (by decide +kernel)
    cases hmem
  have hopened : openWith (.ok ()) false = .ok {} := rfl
  have hmem : close ∈ [update, failedClose, update, close] := by simp
  obtain ⟨earlier, answers, later, rollbacks, closing, hhistory, hearlier, hsent, hclosing, -, hrollbacks,
    hneeded⟩ := closes_once hopened hmem
  obtain rfl : earlier = [update] := by
    rcases earlier with _ | ⟨first, _ | ⟨second, more⟩⟩
    · have hfirst : Action.update config "m.clear" .null = .close :=
        congrArg Prod.fst (List.cons.inj hhistory).1
      cases hfirst
    · rw [(List.cons.inj hhistory).1]
    · have hsecond : .close = second.1 :=
        congrArg Prod.fst (List.cons.inj (List.cons.inj hhistory).2).1
      exact absurd hsecond.symm (hearlier second (by simp))
  exact ⟨hunsettled, rollbacks, closing, hsent, hclosing, hneeded rfl hunsettled, hrollbacks⟩

end Session

end SqlMapper
