import LoginThrottle.Host

/-!
What a host is asked and what it answers. Things are registered in their order up to the first
that is refused, and are unregistered all of them, each refusal being given back with its fault;
keeping the transcript changes none of this.
-/

set_option autoImplicit false
set_option relaxedAutoImplicit false

namespace LoginThrottle.Host

/-- The calls that have been made and the answers to them, in order. -/
abbrev Transcript : Type :=
  List (HostCall × Except Fault Unit)

namespace Transcript

/-- The transcript of things that were all registered. -/
def granted (things : List Registration) : Transcript :=
  things.map fun thing ↦ (.register thing, .ok ())

def calls (transcript : Transcript) : List HostCall :=
  transcript.map Prod.fst

/-- The things that could not be unregistered, each with the fault. -/
def leftovers (transcript : Transcript) : List (Registration × Fault) :=
  transcript.filterMap fun
    | (.unregister thing, .error fault) => some (thing, fault)
    | _ => none

end Transcript

variable {σ : Type}

/-- The same host, with the transcript kept beside it. -/
def transcribed (host : Host σ) : Host (σ × Transcript) where
  answer call state :=
    let (result, next) := host.answer call state.1
    (result, next, state.2 ++ [(call, result)])

open Transcript

theorem answer_transcribed {host : Host σ} {call : HostCall} {state next : σ}
    {result : Except Fault Unit} (h : host.answer call state = (result, next))
    (earlier : Transcript) :
    host.transcribed.answer call (state, earlier) = (result, next, earlier ++ [(call, result)]) := by
  simp only [transcribed, h]

/-- Either all the things are registered, or there is a first that is refused. -/
theorem registerAll_transcribed (host : Host σ) (things : List Registration) (state : σ)
    (earlier : Transcript) :
    (∃ next, host.registerAll things state = ((things, .ok ()), next)
        ∧ host.transcribed.registerAll things (state, earlier) =
          ((things, .ok ()), next, earlier ++ granted things))
      ∨ ∃ done failed rest fault next, things = done ++ failed :: rest
        ∧ host.registerAll things state = ((done, .error fault), next)
        ∧ host.transcribed.registerAll things (state, earlier) =
          ((done, .error fault), next,
            earlier ++ (granted done ++ [(.register failed, .error fault)])) := by
  induction things generalizing state earlier with
  | nil => exact Or.inl ⟨state, rfl, by rw [granted, List.map_nil, List.append_nil]; rfl⟩
  | cons thing rest ih =>
    cases hanswer : host.answer (.register thing) state with
    | mk result next =>
      rw [registerAll, registerAll, hanswer, answer_transcribed hanswer]
      cases result with
      | error fault => exact Or.inr ⟨[], thing, rest, fault, next, rfl, rfl, rfl⟩
      | ok accepted =>
        rcases ih next (earlier ++ [(.register thing, .ok ())]) with
          ⟨last, hplain, hkept⟩ | ⟨done, failed, left, fault, last, rfl, hplain, hkept⟩
        · exact Or.inl ⟨last, by simp only [hplain], by simp [hkept, granted]⟩
        · exact Or.inr ⟨thing :: done, failed, left, fault, last, rfl, by simp only [hplain],
            by simp [hkept, granted]⟩

/-- Every thing is asked about, in order, and what is given back are the refusals. -/
theorem unregisterAll_transcribed (host : Host σ) (things : List Registration) (state : σ)
    (earlier : Transcript) :
    ∃ asked next, calls asked = things.map .unregister
      ∧ host.unregisterAll things state = (leftovers asked, next)
      ∧ host.transcribed.unregisterAll things (state, earlier) =
        (leftovers asked, next, earlier ++ asked) := by
  induction things generalizing state earlier with
  | nil => exact ⟨[], state, rfl, rfl, by rw [List.append_nil]; rfl⟩
  | cons thing rest ih =>
    cases hanswer : host.answer (.unregister thing) state with
    | mk result next =>
      obtain ⟨asked, last, hcalls, hplain, hkept⟩ :=
        ih next (earlier ++ [(.unregister thing, result)])
      rw [unregisterAll, unregisterAll, hanswer, answer_transcribed hanswer]
      refine ⟨(.unregister thing, result) :: asked, last,
        congrArg (HostCall.unregister thing :: ·) hcalls, ?_, ?_⟩
      · simp only [hplain]
        cases result <;> rfl
      · simp only [hkept, List.append_assoc, List.singleton_append]
        cases result <;> rfl

end LoginThrottle.Host
