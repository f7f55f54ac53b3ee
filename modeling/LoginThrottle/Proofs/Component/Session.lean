import LoginThrottle.Proofs.Component.Run

/-!
Runs in which connections are held back while other calls go on. A step is a whole call, or an event
up to its wait, or the rest of such an event. Every audit record was decided on in the state before
some step of the run, and nothing that happens during the wait changes it.
-/

set_option autoImplicit false
set_option relaxedAutoImplicit false

namespace LoginThrottle.Component

/-- A component and the connections that it holds back, in the order of their events. -/
structure Session where
  component : Component
  held : List Coordinator.Held

inductive Step
  | call (call : Call)
  | begin (event : ConnectionEvent)
  | release (place : Nat) (ended : WaitEnd)
  deriving Repr

/-- The event that arrives with a step. -/
def Step.event? : Step → Option ConnectionEvent
  | .call (.notify event _) | .begin event => some event
  | .call _ | .release _ _ => none

namespace Session

def start (component : Component) : Session :=
  ⟨component, []⟩

def perform (session : Session) : Step → Session
  | .call call => { session with component := session.component.perform call }
  | .begin event =>
    let (component, held?) := session.component.begin event
    ⟨component, session.held ++ held?.toList⟩
  | .release place ended =>
    match session.held[place]? with
    | some held => ⟨session.component.release held ended, session.held.eraseIdx place⟩
    | none => session

def run (session : Session) (steps : List Step) : Session :=
  steps.foldl perform session

/-- Where nothing is held back, a session is a run of its component. -/
theorem component_run_map_call (session : Session) (calls : List Call) :
    (session.run (calls.map .call)).component = session.component.run calls := by
  induction calls generalizing session with
  | nil => rfl
  | cons call rest ih => exact ih (session.perform (.call call))

/-- The step brings an event whose delay is decided on as the audit record says. -/
def Decides (session : Session) (step : Step) (audit : DelayAudit) : Prop :=
  ∃ event decision ended, step.event? = some event
    ∧ Verdict.judge session.component.limits session.component.ledger event = .counted decision
    ∧ decision.audit? ended = some audit

/-- A session in service, every audit record of which, past or pending, has its origin. -/
structure Accounted (origin : DelayAudit → Prop) (session : Session) : Prop where
  service : session.component.InService
  recorded : ∀ audit ∈ session.component.audits, origin audit
  pending : ∀ held ∈ session.held, held.remaining = []
    ∧ ∀ ended audit, held.decision.audit? ended = some audit → origin audit

namespace Accounted

variable {origin : DelayAudit → Prop} {session : Session}

theorem mono {wider : DelayAudit → Prop} (h : Accounted origin session)
    (hwider : ∀ audit, origin audit → wider audit) : Accounted wider session where
  service := h.service
  recorded audit haudit := hwider audit (h.recorded audit haudit)
  pending held hheld := ⟨(h.pending held hheld).1,
    fun ended audit haudit ↦ hwider audit ((h.pending held hheld).2 ended audit haudit)⟩

theorem perform_call (h : Accounted origin session) (call : Call) :
    Accounted (fun audit ↦ origin audit ∨ session.Decides (.call call) audit)
      (session.perform (.call call)) where
  service := h.service.perform call
  recorded audit haudit := by
    rw [Session.perform, h.service.audits_perform, List.mem_append] at haudit
    rcases haudit with hearlier | hnew
    · exact Or.inl (h.recorded audit hearlier)
    · rw [Option.mem_toList] at hnew
      cases call with
      | check | set | update => exact absurd hnew (by simp [Call.audit?])
      | notify event ended =>
        obtain ⟨key, hkey, hmade⟩ := Option.bind_eq_some_iff.mp hnew
        exact Or.inr ⟨event, _, ended, rfl, Verdict.judge_of_counted hkey _, hmade⟩
  pending held hheld := (h.mono fun _ ↦ Or.inl).pending held hheld

theorem perform_begin (h : Accounted origin session) (event : ConnectionEvent) :
    Accounted (fun audit ↦ origin audit ∨ session.Decides (.begin event) audit)
      (session.perform (.begin event)) := by
  rcases h.service.begin_cases event .elapsed with ⟨decision, hjudge, hbegin⟩ | hbegin
  · simp only [Session.perform, hbegin, Option.toList_some]
    refine ⟨h.service.act_increment, (h.mono fun _ ↦ Or.inl).recorded, fun held hheld ↦ ?_⟩
    rcases List.mem_append.mp hheld with hearlier | hnew
    · exact (h.mono fun _ ↦ Or.inl).pending held hearlier
    · rw [List.mem_singleton.mp hnew]
      exact ⟨rfl, fun ended audit haudit ↦ Or.inr ⟨event, decision, ended, rfl, hjudge, haudit⟩⟩
  · -- Nothing is held back, so it is as if the event had come as a whole.
    have hsame : session.perform (.begin event) =
        session.perform (.call (.notify event .elapsed)) := by
      simp only [Session.perform, hbegin, Option.toList_none, List.append_nil]
      rfl
    rw [hsame]
    exact h.perform_call (.notify event .elapsed)

theorem perform_release (h : Accounted origin session) (place : Nat) (ended : WaitEnd) :
    Accounted origin (session.perform (.release place ended)) := by
  rw [Session.perform]
  cases hheld : session.held[place]? with
  | none => exact h
  | some held =>
    obtain ⟨hlast, horigin⟩ := h.pending held (List.mem_of_getElem? hheld)
    obtain ⟨hservice, -, haudits⟩ := h.service.release hlast ended
    refine ⟨hservice, fun audit haudit ↦ ?_, fun other hother ↦ ?_⟩
    · rw [haudits, List.mem_append] at haudit
      rcases haudit with hearlier | hnew
      · exact h.recorded audit hearlier
      · exact horigin ended audit (Option.mem_toList.mp hnew)
    · exact h.pending other ((List.eraseIdx_sublist _ _).subset hother)

/-- What a step records it has decided on itself, or an earlier one has. -/
theorem perform (h : Accounted origin session) (step : Step) :
    Accounted (fun audit ↦ origin audit ∨ session.Decides step audit) (session.perform step) := by
  cases step with
  | call call => exact h.perform_call call
  | begin event => exact h.perform_begin event
  | release place ended => exact (h.perform_release place ended).mono fun _ ↦ Or.inl

/-- What a run records one of its steps has decided on. -/
theorem run (h : Accounted origin session) (steps : List Step) :
    Accounted (fun audit ↦ origin audit ∨ ∃ before step after, steps = before ++ step :: after
      ∧ (session.run before).Decides step audit) (session.run steps) := by
  induction steps generalizing session origin with
  | nil => exact h.mono fun _ ↦ Or.inl
  | cons first rest ih =>
    refine (ih (h.perform first)).mono fun audit horigin ↦ ?_
    rcases horigin with (hearlier | hfirst) | ⟨before, step, after, hrest, hlater⟩
    · exact Or.inl hearlier
    · exact Or.inr ⟨[], first, rest, rfl, hfirst⟩
    · exact Or.inr ⟨first :: before, step, after, congrArg (first :: ·) hrest, hlater⟩

end Accounted

theorem accounted_start {component : Component} (h : component.InService)
    (hquiet : component.audits = []) : Accounted (fun _ ↦ False) (start component) where
  service := h
  recorded audit haudit := by
    rw [start, hquiet] at haudit
    exact absurd haudit List.not_mem_nil
  pending held hheld := absurd hheld List.not_mem_nil

end Session

end LoginThrottle.Component
