import LoginThrottle.Proofs.Coordinator

/-!
How news, that is an event or a changed setting, goes round the subscribers. Each that it concerns
hears it once, in the order of registration, and in the state that those before it have left. What
it does before it fails stays done; its fault ends its own actions, is logged as one warning under
its number, and goes no further. So whether an observer fails in the end makes no difference to the
counter, the ledger, the limits of any delay policy or what the observers see.
-/

set_option autoImplicit false
set_option relaxedAutoImplicit false

namespace LoginThrottle

/-- What subscribers are told: an event, with the end of the wait of each who has to wait, or a
changed setting. -/
inductive News
  | event (event : ConnectionEvent) (ends : Nat → WaitEnd)
  | change (setting : Setting) (value : Int64)

namespace News

/-! ### News and one subscriber -/

def concerns (news : News) (subscriber : Subscriber) : Bool :=
  match news with
  | .event _ _ => true
  | .change setting _ => subscriber.interests.contains setting

/-- The entry in the notes of the scripted observer with this label. -/
def sighting (news : News) (label : String) : Sighting :=
  match news with
  | .event arrived _ => .event label arrived.kind arrived.outcome
  | .change setting value => .change label setting value

def actions (news : News) (script : Script) : List CounterAction :=
  match news with
  | .event _ _ => script.onEvent
  | .change _ _ => script.onChange

def warning (news : News) (number : Nat) (fault : Fault) : Record :=
  match news with
  | .event _ _ => .eventFailed number fault
  | .change setting value => .changeFailed number setting value fault

/-- What an observer ends with. Of the coordinator it depends on the owner of the counter only. -/
def result (news : News) (owner? : Option Nat) (number : Nat) : Observer → Except Fault Unit
  | .scripted script =>
    if owner? = some number ∨ news.actions script = [] then
      match script.failure? with
      | some reason => .error (.observerFailed reason)
      | none => .ok ()
    else .error (.notOwned .delayGenerated)
  | .delay limits =>
    match news with
    | .event _ _ => .ok ()
    | .change .threshold _ =>
      if owner? = some number then .ok () else .error (.notOwned .delayGenerated)
    | .change setting value => limits.check setting value

/-- What an observer that is told notes down, if it takes notes. -/
def note? (news : News) : Observer → Option Sighting
  | .scripted script => some (news.sighting script.label)
  | .delay _ => none

/-- What a subscriber notes down, if the news concerns it. -/
def sighting? (news : News) (subscriber : Subscriber) : Option Sighting :=
  if news.concerns subscriber then news.note? subscriber.observer else none

/-- The warning about a numbered subscriber, if the news concerns it and it fails. -/
def warning? (news : News) (owner? : Option Nat) (entry : Subscriber × Nat) : Option Record :=
  if news.concerns entry.1 then
    match news.result owner? entry.2 entry.1.observer with
    | .ok () => none
    | .error fault => some (news.warning entry.2 fault)
  else none

end News

/-- Whether the record is about a subscriber that has failed. -/
def Record.isWarning : Record → Bool
  | .eventFailed _ _ | .changeFailed _ _ _ _ => true
  | _ => false

namespace Coordinator

def warnings (coordinator : Coordinator) : List Record :=
  coordinator.journal.filter (·.isWarning)

/-- The news told to everyone. -/
def announce (coordinator : Coordinator) : News → Coordinator
  | .event event ends =>
    (List.range coordinator.subscribers.length).foldl
      (fun reached number ↦ reached.deliver event (ends number) number) coordinator
  | .change setting value => coordinator.notifyChange setting value

/-- What an observer does about the news, whatever it ends with. The counter's owner takes all its
actions and another observer none of them, since its first is refused. -/
def respond (coordinator : Coordinator) (news : News) (number : Nat) : Observer → Coordinator
  | .scripted script =>
    let noted := coordinator.note (news.sighting script.label)
    if coordinator.owner? = some number then (news.actions script).foldl act noted else noted
  | .delay limits =>
    match news with
    | .event event ends =>
      match coordinator.decide number limits event with
      | (next, some decision) => next.settle decision (ends number)
      | (next, none) => next
    | .change setting value => (coordinator.adjust number limits setting value).1

/-- The turn of a numbered subscriber: what it does about the news, and then the warning if it has
failed. -/
def hear (coordinator : Coordinator) (news : News) (entry : Subscriber × Nat) : Coordinator :=
  if news.concerns entry.1 then
    match news.result coordinator.owner? entry.2 entry.1.observer with
    | .ok () => coordinator.respond news entry.2 entry.1.observer
    | .error fault =>
      (coordinator.respond news entry.2 entry.1.observer).log (news.warning entry.2 fault)
  else coordinator

/-! ### The turn of a subscriber -/

section Turn

variable {coordinator : Coordinator} {number : Nat}

/-- The owner is never refused. -/
theorem reportAll_of_owner (howner : coordinator.owner? = some number)
    (actions : List CounterAction) :
    coordinator.reportAll number actions = (actions.foldl act coordinator, .ok ()) := by
  induction actions generalizing coordinator with
  | nil => rfl
  | cons action rest ih =>
    have hnext : (coordinator.act action).owner? = some number := by
      cases action <;> exact howner
    rw [reportAll, report, if_pos howner]
    exact ih hnext

/-- Nobody else gets further than the first action. -/
theorem reportAll_of_not_owner (howner : coordinator.owner? ≠ some number)
    (actions : List CounterAction) :
    coordinator.reportAll number actions =
      (coordinator, if actions = [] then .ok () else .error (.notOwned .delayGenerated)) := by
  cases actions with
  | nil => rfl
  | cons action rest =>
    rw [reportAll, report, if_neg howner]
    rfl

/-- A scripted observer notes the news, takes its actions, and ends as its script says. -/
theorem follow_eq (coordinator : Coordinator) (news : News) (number : Nat) (script : Script) :
    (coordinator.note (news.sighting script.label)).follow number script (news.actions script) =
      (coordinator.respond news number (.scripted script),
        news.result coordinator.owner? number (.scripted script)) := by
  rw [follow, respond, News.result]
  by_cases howner : coordinator.owner? = some number
  · have hnoted : (coordinator.note (news.sighting script.label)).owner? = some number := howner
    rw [reportAll_of_owner hnoted]
    simp only [howner, if_true, true_or]
    cases script.failure? <;> rfl
  · have hnoted : (coordinator.note (news.sighting script.label)).owner? ≠ some number := howner
    rw [reportAll_of_not_owner hnoted]
    simp only [howner, if_false, false_or]
    by_cases hactions : news.actions script = []
    · simp only [hactions, if_true]
      cases script.failure? <;> rfl
    · simp only [hactions, if_false]

/-- The delay policy takes a changed setting over, or says why it does not. -/
theorem result_adjust (coordinator : Coordinator) (number : Nat) (limits : Settings)
    (setting : Setting) (value : Int64) :
    (coordinator.adjust number limits setting value).2 =
      News.result (.change setting value) coordinator.owner? number (.delay limits) := by
  cases setting with
  | threshold =>
    have howner (other : Observer) :
        (coordinator.setObserver number other).owner? = coordinator.owner? := rfl
    simp only [adjust, report, howner, News.result]
    by_cases hnumber : coordinator.owner? = some number
    · simp only [if_pos hnumber]
    · simp only [if_neg hnumber]
  | minDelay | maxDelay =>
    rw [adjust_of_ne (by decide)]
    simp only [News.result]
    cases limits.check _ value <;> rfl

/-- An event that is delivered to a subscriber is heard by it. -/
theorem deliver_eq_hear {subscriber : Subscriber}
    (hsubscriber : coordinator.subscribers[number]? = some subscriber) (event : ConnectionEvent)
    (ends : Nat → WaitEnd) :
    coordinator.deliver event (ends number) number =
      coordinator.hear (.event event ends) (subscriber, number) := by
  obtain ⟨observer, interests⟩ := subscriber
  cases observer with
  | delay limits =>
    cases hdecide : coordinator.decide number limits event with
    | mk next decision? =>
      cases decision? <;>
        simp only [deliver, tell, hsubscriber, hdecide, hear, respond, News.concerns, News.result,
          if_true]
  | scripted script =>
    have hfollow := follow_eq coordinator (.event event ends) number script
    simp only [News.sighting, News.actions] at hfollow
    cases hresult : News.result (.event event ends) coordinator.owner? number
        (.scripted script) <;>
      simp only [deliver, tell, hsubscriber, hfollow, hresult, hear, News.concerns, News.warning,
        if_true]

/-- A changed setting that is told to a subscriber is heard by it, if it is interested. -/
theorem tellChange_eq_hear {subscriber : Subscriber}
    (hsubscriber : coordinator.subscribers[number]? = some subscriber) (setting : Setting)
    (value : Int64) :
    coordinator.tellChange setting value number =
      coordinator.hear (.change setting value) (subscriber, number) := by
  obtain ⟨observer, interests⟩ := subscriber
  cases hinterest : interests.contains setting with
  | false =>
    simp only [tellChange, hsubscriber, hear, News.concerns, hinterest, Bool.false_eq_true,
      if_false]
  | true =>
    cases observer with
    | delay limits =>
      have hadjust : coordinator.adjust number limits setting value =
          (coordinator.respond (.change setting value) number (.delay limits),
            News.result (.change setting value) coordinator.owner? number (.delay limits)) := by
        rw [← result_adjust]
        rfl
      cases hresult : News.result (.change setting value) coordinator.owner? number
          (.delay limits) <;>
        simp only [tellChange, hsubscriber, hinterest, hadjust, hresult, hear, News.concerns,
          News.warning, if_true]
    | scripted script =>
      have hfollow := follow_eq coordinator (.change setting value) number script
      simp only [News.sighting, News.actions] at hfollow
      cases hresult : News.result (.change setting value) coordinator.owner? number
          (.scripted script) <;>
        simp only [tellChange, hsubscriber, hinterest, hfollow, hresult, hear, News.concerns,
          News.warning, if_true]

end Turn

/-! ### What a turn leaves alone -/

/-- The subscribers, the owner of the counter, the notes and the warnings are what they were. -/
structure Undisturbed (before after : Coordinator) : Prop where
  subscribers : after.subscribers = before.subscribers
  owner? : after.owner? = before.owner?
  sightings : after.sightings = before.sightings
  warnings : after.warnings = before.warnings

theorem Undisturbed.trans {first second third : Coordinator} (hfirst : Undisturbed first second)
    (hsecond : Undisturbed second third) : Undisturbed first third where
  subscribers := hsecond.subscribers.trans hfirst.subscribers
  owner? := hsecond.owner?.trans hfirst.owner?
  sightings := hsecond.sightings.trans hfirst.sightings
  warnings := hsecond.warnings.trans hfirst.warnings

theorem warnings_log (coordinator : Coordinator) (record : Record) :
    (coordinator.log record).warnings =
      if record.isWarning then coordinator.warnings ++ [record] else coordinator.warnings := by
  rw [warnings, log, List.filter_append]
  cases hrecord : record.isWarning <;> simp [warnings, hrecord]

theorem undisturbed_log (coordinator : Coordinator) {record : Record}
    (hrecord : record.isWarning = false) : Undisturbed coordinator (coordinator.log record) where
  subscribers := rfl
  owner? := rfl
  sightings := rfl
  warnings := by rw [warnings_log, hrecord, if_neg Bool.false_ne_true]

theorem undisturbed_act (coordinator : Coordinator) (action : CounterAction) :
    Undisturbed coordinator (coordinator.act action) := by
  cases action <;> exact ⟨rfl, rfl, rfl, rfl⟩

theorem undisturbed_foldl_act (actions : List CounterAction) (coordinator : Coordinator) :
    Undisturbed coordinator (actions.foldl act coordinator) := by
  induction actions generalizing coordinator with
  | nil => exact ⟨rfl, rfl, rfl, rfl⟩
  | cons action rest ih => exact (undisturbed_act coordinator action).trans (ih _)

theorem undisturbed_settle (coordinator : Coordinator) (decision : Decision) (ended : WaitEnd) :
    Undisturbed coordinator (coordinator.settle decision ended) := by
  rw [settle]
  cases decision.audit? ended with
  | none => exact ⟨rfl, rfl, rfl, rfl⟩
  | some audit =>
    have hlogged : Undisturbed coordinator (coordinator.log (.delayed audit)) :=
      undisturbed_log coordinator rfl
    exact ⟨hlogged.subscribers, hlogged.owner?, hlogged.sightings, hlogged.warnings⟩

theorem undisturbed_countDelay (coordinator : Coordinator) (number : Nat) :
    Undisturbed coordinator (coordinator.countDelay number) := by
  rw [countDelay, report]
  by_cases howner : coordinator.owner? = some number
  · rw [if_pos howner]
    exact undisturbed_act coordinator .increment
  · rw [if_neg howner]
    exact undisturbed_log coordinator rfl

theorem undisturbed_decide (coordinator : Coordinator) (number : Nat) (limits : Settings)
    (event : ConnectionEvent) :
    Undisturbed coordinator (coordinator.decide number limits event).1 := by
  rw [decide]
  cases Verdict.judge limits coordinator.ledger event with
  | ignored => exact ⟨rfl, rfl, rfl, rfl⟩
  | unidentified => exact undisturbed_log coordinator rfl
  | counted decision =>
    by_cases hdelayed : decision.delay?.isSome = true
    · simp only [if_pos hdelayed]
      exact undisturbed_countDelay coordinator number
    · simp only [if_neg hdelayed]
      exact undisturbed_settle coordinator decision .elapsed

/-- Somebody has noted something down, perhaps, and at one place among the subscribers there are
perhaps new limits. -/
structure Responded (note? : Option Sighting) (number : Nat) (before after : Coordinator) :
    Prop where
  others : ∀ other, other ≠ number → after.subscribers[other]? = before.subscribers[other]?
  owner? : after.owner? = before.owner?
  sightings : after.sightings = before.sightings ++ note?.toList
  warnings : after.warnings = before.warnings

theorem Undisturbed.responded {before after : Coordinator} (h : Undisturbed before after)
    (number : Nat) : Responded none number before after where
  others other _ := by rw [h.subscribers]
  owner? := h.owner?
  sightings := h.sightings.trans (List.append_nil _).symm
  warnings := h.warnings

theorem Responded.undisturbed {note? : Option Sighting} {number : Nat}
    {before middle after : Coordinator} (h : Responded note? number before middle)
    (hafter : Undisturbed middle after) : Responded note? number before after where
  others other hother := by rw [hafter.subscribers, h.others other hother]
  owner? := hafter.owner?.trans h.owner?
  sightings := hafter.sightings.trans h.sightings
  warnings := hafter.warnings.trans h.warnings

theorem responded_setObserver (coordinator : Coordinator) (number : Nat) (observer : Observer) :
    Responded none number coordinator (coordinator.setObserver number observer) where
  others other hother := by
    rw [setObserver, List.getElem?_modify]
    simp only [if_neg (Ne.symm hother)]
    exact id_map _
  owner? := rfl
  sightings := (List.append_nil _).symm
  warnings := rfl

theorem responded_adjust (coordinator : Coordinator) (number : Nat) (limits : Settings)
    (setting : Setting) (value : Int64) :
    Responded none number coordinator (coordinator.adjust number limits setting value).1 := by
  cases setting with
  | threshold =>
    have hset := responded_setObserver coordinator number
      (.delay { limits with threshold := max value 0 })
    rw [adjust, report]
    split
    · next next hreport =>
      split at hreport
      · obtain rfl := Except.ok.inj hreport
        exact hset.undisturbed (undisturbed_act _ .reset)
      · exact absurd hreport (by simp)
    · exact hset.undisturbed (undisturbed_log _ rfl)
  | minDelay | maxDelay =>
    rw [adjust]
    split
    · exact responded_setObserver coordinator number _
    · exact (undisturbed_log coordinator rfl).responded number

/-- Whatever an observer does, it is no more than a note of its own and limits of its own. -/
theorem responded_respond (coordinator : Coordinator) (news : News) (number : Nat)
    (observer : Observer) :
    Responded (news.note? observer) number coordinator
      (coordinator.respond news number observer) := by
  cases observer with
  | delay limits =>
    cases news with
    | event event ends =>
      have hdecide := undisturbed_decide coordinator number limits event
      rw [respond]
      split
      · next next decision hnext =>
        rw [hnext] at hdecide
        exact (hdecide.trans (undisturbed_settle next decision _)).responded number
      · next next hnext =>
        rw [hnext] at hdecide
        exact hdecide.responded number
    | change setting value => exact responded_adjust coordinator number limits setting value
  | scripted script =>
    have hnoted : Responded (some (news.sighting script.label)) number coordinator
        (coordinator.note (news.sighting script.label)) :=
      ⟨fun _ _ ↦ rfl, rfl, rfl, rfl⟩
    rw [respond]
    by_cases howner : coordinator.owner? = some number
    · simp only [if_pos howner]
      exact hnoted.undisturbed (undisturbed_foldl_act _ _)
    · simp only [if_neg howner]
      exact hnoted

/-- What the turn of a numbered subscriber can touch: its own place among the subscribers, and the
ends of the notes and of the warnings. -/
structure Heard (news : News) (entry : Subscriber × Nat) (before after : Coordinator) :
    Prop where
  others : ∀ other, other ≠ entry.2 → after.subscribers[other]? = before.subscribers[other]?
  owner? : after.owner? = before.owner?
  sightings : after.sightings = before.sightings ++ (news.sighting? entry.1).toList
  warnings : after.warnings = before.warnings ++ (news.warning? before.owner? entry).toList

theorem News.isWarning_warning (news : News) (number : Nat) (fault : Fault) :
    (news.warning number fault).isWarning = true := by
  cases news <;> rfl

theorem heard_hear (coordinator : Coordinator) (news : News) (entry : Subscriber × Nat) :
    Heard news entry coordinator (coordinator.hear news entry) := by
  have hresponded := responded_respond coordinator news entry.2 entry.1.observer
  unfold hear
  cases hconcerns : news.concerns entry.1 with
  | false =>
    have hsighting : news.sighting? entry.1 = none := by
      rw [News.sighting?, hconcerns, if_neg Bool.false_ne_true]
    have hwarning : news.warning? coordinator.owner? entry = none := by
      rw [News.warning?, hconcerns, if_neg Bool.false_ne_true]
    rw [if_neg Bool.false_ne_true]
    constructor
    · exact fun _ _ ↦ rfl
    · rfl
    · rw [hsighting, Option.toList_none, List.append_nil]
    · rw [hwarning, Option.toList_none, List.append_nil]
  | true =>
    have hsighting : news.sighting? entry.1 = news.note? entry.1.observer := by
      rw [News.sighting?, hconcerns, if_pos rfl]
    rw [if_pos rfl]
    cases hresult : news.result coordinator.owner? entry.2 entry.1.observer with
    | ok done =>
      have hwarning : news.warning? coordinator.owner? entry = none := by
        rw [News.warning?, hconcerns, if_pos rfl, hresult]
      constructor
      · exact hresponded.others
      · exact hresponded.owner?
      · rw [hsighting, hresponded.sightings]
      · rw [hwarning, Option.toList_none, List.append_nil, hresponded.warnings]
    | error fault =>
      have hwarning : news.warning? coordinator.owner? entry =
          some (news.warning entry.2 fault) := by
        rw [News.warning?, hconcerns, if_pos rfl, hresult]
      constructor
      · exact hresponded.others
      · exact hresponded.owner?
      · rw [hsighting]
        exact hresponded.sightings
      · rw [warnings_log, News.isWarning_warning, if_pos rfl, hwarning, hresponded.warnings]
        rfl

/-! ### Everybody's turn -/

/-- Over a part of the subscribers, the notes and the warnings add up in order. -/
theorem heard_foldl (news : News) (entries : List (Subscriber × Nat)) (coordinator : Coordinator) :
    let after := entries.foldl (fun reached entry ↦ reached.hear news entry) coordinator
    after.owner? = coordinator.owner?
      ∧ after.sightings =
          coordinator.sightings ++ entries.filterMap (fun entry ↦ news.sighting? entry.1)
      ∧ after.warnings =
          coordinator.warnings ++ entries.filterMap (news.warning? coordinator.owner?) := by
  induction entries generalizing coordinator with
  | nil => simp
  | cons entry rest ih =>
    have hfirst := heard_hear coordinator news entry
    obtain ⟨howner, hsightings, hwarnings⟩ := ih (coordinator.hear news entry)
    rw [hfirst.owner?] at howner hwarnings
    refine ⟨howner, ?_, ?_⟩
    · rw [List.foldl_cons, hsightings, hfirst.sightings, List.append_assoc]
      cases hsighting : news.sighting? entry.1 <;> simp [hsighting]
    · rw [List.foldl_cons, hwarnings, hfirst.warnings, List.append_assoc]
      cases hwarning : news.warning? coordinator.owner? entry <;> simp [hwarning]

/-- Going through the places is going through the subscribers that are there at the beginning,
since a turn changes nobody's place but its own. -/
theorem foldl_range'_eq {news : News} {visit : Coordinator → Nat → Coordinator}
    (hvisit : ∀ (reached : Coordinator) (number : Nat) (subscriber : Subscriber),
      reached.subscribers[number]? = some subscriber →
        visit reached number = reached.hear news (subscriber, number))
    (subscribers : List Subscriber) (first : Nat) (coordinator : Coordinator)
    (hplaces : ∀ place, coordinator.subscribers[first + place]? = subscribers[place]?) :
    (List.range' first subscribers.length).foldl visit coordinator =
      (subscribers.zipIdx first).foldl (fun reached entry ↦ reached.hear news entry)
        coordinator := by
  induction subscribers generalizing first coordinator with
  | nil => rfl
  | cons subscriber rest ih =>
    have hfirst : visit coordinator first = coordinator.hear news (subscriber, first) :=
      hvisit coordinator first subscriber (hplaces 0)
    have hrest (place : Nat) :
        (coordinator.hear news (subscriber, first)).subscribers[first + 1 + place]? =
          rest[place]? := by
      rw [(heard_hear coordinator news (subscriber, first)).others _ (by simp only; omega),
        Nat.add_assoc, hplaces, Nat.add_comm 1 place, List.getElem?_cons_succ]
    rw [List.length_cons, List.range'_succ, List.zipIdx_cons, List.foldl_cons, List.foldl_cons,
      hfirst]
    exact ih (first + 1) _ hrest

/-- News is heard by one subscriber after the other. -/
theorem announce_eq_foldl (coordinator : Coordinator) (news : News) :
    coordinator.announce news =
      coordinator.subscribers.zipIdx.foldl (fun reached entry ↦ reached.hear news entry)
        coordinator := by
  have hplaces (place : Nat) :
      coordinator.subscribers[0 + place]? = coordinator.subscribers[place]? := by
    rw [Nat.zero_add]
  cases news with
  | event event ends =>
    rw [announce, List.range_eq_range']
    exact foldl_range'_eq (fun reached number subscriber hsubscriber ↦
      deliver_eq_hear hsubscriber event ends) _ 0 coordinator hplaces
  | change setting value =>
    rw [announce, notifyChange, List.range_eq_range']
    exact foldl_range'_eq (fun reached number subscriber hsubscriber ↦
      tellChange_eq_hear hsubscriber setting value) _ 0 coordinator hplaces

end Coordinator

/-! ### Failing or not -/

/-- The observer without the failure that its script ends with. -/
def Observer.unfailing : Observer → Observer
  | .delay limits => .delay limits
  | .scripted script => .scripted { script with failure? := none }

def Subscriber.unfailing (subscriber : Subscriber) : Subscriber :=
  { subscriber with observer := subscriber.observer.unfailing }

namespace Coordinator

/-- The coordinators differ in nothing but their logs and the failures of scripted observers. -/
structure Alike (one other : Coordinator) : Prop where
  subscribers : one.subscribers.map (·.unfailing) = other.subscribers.map (·.unfailing)
  owner? : one.owner? = other.owner?
  generated : one.generated = other.generated
  ledger : one.ledger = other.ledger
  sightings : one.sightings = other.sightings

namespace Alike

variable {one other : Coordinator}

theorem log (h : Alike one other) (record : Record) :
    Alike (one.log record) (other.log record) :=
  ⟨h.subscribers, h.owner?, h.generated, h.ledger, h.sightings⟩

theorem note (h : Alike one other) (sighting : Sighting) :
    Alike (one.note sighting) (other.note sighting) :=
  ⟨h.subscribers, h.owner?, h.generated, h.ledger, congrArg (· ++ [sighting]) h.sightings⟩

theorem act (h : Alike one other) (action : CounterAction) :
    Alike (one.act action) (other.act action) := by
  cases action with
  | increment =>
    exact ⟨h.subscribers, h.owner?, congrArg (· + 1) h.generated, h.ledger, h.sightings⟩
  | reset => exact ⟨h.subscribers, h.owner?, rfl, rfl, h.sightings⟩

theorem foldl_act (h : Alike one other) (actions : List CounterAction) :
    Alike (actions.foldl Coordinator.act one) (actions.foldl Coordinator.act other) := by
  induction actions generalizing one other with
  | nil => exact h
  | cons action rest ih => exact ih (h.act action)

theorem settle (h : Alike one other) (decision : Decision) (ended : WaitEnd) :
    Alike (one.settle decision ended) (other.settle decision ended) := by
  rw [Coordinator.settle, Coordinator.settle]
  cases decision.audit? ended <;>
    exact ⟨h.subscribers, h.owner?, h.generated, congrArg decision.apply h.ledger, h.sightings⟩

theorem countDelay (h : Alike one other) (number : Nat) :
    Alike (one.countDelay number) (other.countDelay number) := by
  rw [Coordinator.countDelay, Coordinator.countDelay, report, report, h.owner?]
  by_cases howner : other.owner? = some number
  · simp only [if_pos howner]
    exact h.act .increment
  · simp only [if_neg howner]
    exact h.log _

/-- The decision on an event looks at the ledger and not at the log. -/
theorem decide (h : Alike one other) (number : Nat) (limits : Settings)
    (event : ConnectionEvent) :
    Alike (one.decide number limits event).1 (other.decide number limits event).1
      ∧ (one.decide number limits event).2 = (other.decide number limits event).2 := by
  rw [Coordinator.decide, Coordinator.decide, h.ledger]
  cases Verdict.judge limits other.ledger event with
  | ignored => exact ⟨h, rfl⟩
  | unidentified => exact ⟨h.log _, rfl⟩
  | counted decision =>
    by_cases hdelayed : decision.delay?.isSome = true
    · simp only [if_pos hdelayed]
      exact ⟨h.countDelay number, trivial⟩
    · simp only [if_neg hdelayed]
      exact ⟨h.settle decision .elapsed, trivial⟩

theorem setObserver (h : Alike one other) (number : Nat) (observer : Observer) :
    Alike (one.setObserver number observer) (other.setObserver number observer) := by
  have hmap (subscribers : List Subscriber) (place : Nat) :
      (subscribers.modify place ({ · with observer })).map (·.unfailing) =
        (subscribers.map (·.unfailing)).modify place
          ({ · with observer := observer.unfailing }) := by
    induction subscribers generalizing place with
    | nil => cases place <;> rfl
    | cons subscriber rest ih =>
      cases place with
      | zero => rfl
      | succ place => exact congrArg (subscriber.unfailing :: ·) (ih place)
  refine ⟨?_, h.owner?, h.generated, h.ledger, h.sightings⟩
  exact (hmap one.subscribers number).trans (h.subscribers ▸ (hmap other.subscribers number).symm)

theorem adjust (h : Alike one other) (number : Nat) (limits : Settings) (setting : Setting)
    (value : Int64) :
    Alike (one.adjust number limits setting value).1
      (other.adjust number limits setting value).1 := by
  cases setting with
  | threshold =>
    have hset := h.setObserver number (.delay { limits with threshold := max value 0 })
    simp only [Coordinator.adjust, report, hset.owner?]
    by_cases howner : (other.setObserver number
        (.delay { limits with threshold := max value 0 })).owner? = some number
    · simp only [if_pos howner]
      exact hset.act .reset
    · simp only [if_neg howner]
      exact hset.log _
  | minDelay | maxDelay =>
    rw [Coordinator.adjust, Coordinator.adjust]
    split
    · exact h.setObserver number _
    · exact h.log _

theorem respond (h : Alike one other) (news : News) (number : Nat) (observer : Observer) :
    Alike (one.respond news number observer) (other.respond news number observer) := by
  cases observer with
  | delay limits =>
    cases news with
    | change setting value => exact h.adjust number limits setting value
    | event event ends =>
      obtain ⟨hnext, hdecision⟩ := h.decide number limits event
      rw [Coordinator.respond, Coordinator.respond]
      generalize one.decide number limits event = first at hnext hdecision ⊢
      generalize other.decide number limits event = second at hnext hdecision ⊢
      obtain ⟨next, decision?⟩ := first
      obtain ⟨_, _⟩ := second
      obtain rfl := hdecision
      cases decision? with
      | none => exact hnext
      | some decision => exact hnext.settle decision (ends number)
  | scripted script =>
    have hnoted := h.note (news.sighting script.label)
    rw [Coordinator.respond, Coordinator.respond, h.owner?]
    by_cases howner : other.owner? = some number
    · simp only [if_pos howner]
      exact hnoted.foldl_act (news.actions script)
    · simp only [if_neg howner]
      exact hnoted

/-- A warning makes no difference. -/
theorem warn (h : Alike one other) (result : Except Fault Unit) (record : Fault → Record) :
    Alike (match result with | .ok () => one | .error fault => one.log (record fault)) other := by
  cases result with
  | ok done => exact h
  | error fault => exact ⟨h.subscribers, h.owner?, h.generated, h.ledger, h.sightings⟩

end Alike

/-- What an observer does is the same whether its script ends with a failure or not. -/
theorem respond_unfailing (coordinator : Coordinator) (news : News) (number : Nat)
    (observer : Observer) :
    coordinator.respond news number observer.unfailing =
      coordinator.respond news number observer := by
  cases observer with
  | delay limits => rfl
  | scripted script => cases news <;> rfl

theorem Alike.symm {one other : Coordinator} (h : Alike one other) : Alike other one :=
  ⟨h.subscribers.symm, h.owner?.symm, h.generated.symm, h.ledger.symm, h.sightings.symm⟩

theorem Alike.hear {one other : Coordinator} (h : Alike one other) (news : News) {a b : Subscriber}
    (hsubscriber : a.unfailing = b.unfailing) (number : Nat) :
    Alike (one.hear news (a, number)) (other.hear news (b, number)) := by
  obtain ⟨hobserver, hinterests⟩ := Subscriber.mk.inj hsubscriber
  have hconcerns : news.concerns a = news.concerns b := by
    cases news with
    | event event ends => rfl
    | change setting value => exact congrArg (·.contains setting) hinterests
  have hresponded : Alike (one.respond news number a.observer)
      (other.respond news number b.observer) := by
    rw [← respond_unfailing one, hobserver, respond_unfailing one]
    exact h.respond news number b.observer
  rw [Coordinator.hear, Coordinator.hear, hconcerns]
  cases news.concerns b with
  | false => exact h
  | true => exact ((hresponded.warn _ (news.warning number)).symm.warn _ (news.warning number)).symm

theorem Alike.foldl_hear {one other : Coordinator} (h : Alike one other) (news : News)
    {mine yours : List Subscriber} (hsame : mine.map (·.unfailing) = yours.map (·.unfailing))
    (first : Nat) :
    Alike ((mine.zipIdx first).foldl (fun reached entry ↦ reached.hear news entry) one)
      ((yours.zipIdx first).foldl (fun reached entry ↦ reached.hear news entry) other) := by
  induction mine generalizing yours one other first with
  | nil =>
    obtain rfl := List.map_eq_nil_iff.mp hsame.symm
    exact h
  | cons subscriber rest ih =>
    cases yours with
    | nil => exact absurd hsame (by simp)
    | cons counterpart others =>
      rw [List.map_cons, List.map_cons, List.cons.injEq] at hsame
      rw [List.zipIdx_cons, List.zipIdx_cons, List.foldl_cons, List.foldl_cons]
      exact ih (h.hear news hsame.1 first) hsame.2 (first + 1)

/-- The limits of the delay policies do not depend on who fails. -/
theorem Alike.delayLimits {one other : Coordinator} (h : Alike one other) :
    one.delayLimits = other.delayLimits := by
  have hlimits : (fun subscriber : Subscriber ↦ subscriber.observer.limits?) =
      fun subscriber ↦ subscriber.unfailing.observer.limits? := by
    funext subscriber
    obtain ⟨observer, interests⟩ := subscriber
    cases observer <;> rfl
  have hunfailing (coordinator : Coordinator) : coordinator.delayLimits =
      (coordinator.subscribers.map (·.unfailing)).filterMap (·.observer.limits?) := by
    rw [Coordinator.delayLimits, List.filterMap_map]
    exact congrArg (List.filterMap · coordinator.subscribers) hlimits
  rw [hunfailing, hunfailing, h.subscribers]

/-! ### News for everybody -/

/-- News goes round the subscribers in turn. Each that it concerns notes it down once, and each
that fails is warned about once, in the order of registration; and if the subscribers differ only
in who fails in the end, the counter, the ledger, the limits and the notes come out the same. -/
theorem announce_in_turn (coordinator : Coordinator) (news : News) :
    (∀ event ended, coordinator.notifyEvent event ended =
        coordinator.announce (.event event fun _ ↦ ended))
      ∧ (∀ setting value, coordinator.notifyChange setting value =
        coordinator.announce (.change setting value))
      ∧ coordinator.announce news =
        coordinator.subscribers.zipIdx.foldl (fun reached entry ↦ reached.hear news entry)
          coordinator
      ∧ (coordinator.announce news).sightings =
        coordinator.sightings ++ coordinator.subscribers.filterMap news.sighting?
      ∧ (coordinator.announce news).warnings =
        coordinator.warnings
          ++ coordinator.subscribers.zipIdx.filterMap (news.warning? coordinator.owner?)
      ∧ ∀ other, Alike coordinator other →
        (coordinator.announce news).generated = (other.announce news).generated
          ∧ (coordinator.announce news).ledger = (other.announce news).ledger
          ∧ (coordinator.announce news).delayLimits = (other.announce news).delayLimits
          ∧ (coordinator.announce news).sightings = (other.announce news).sightings := by
  obtain ⟨-, hsightings, hwarnings⟩ :=
    heard_foldl news coordinator.subscribers.zipIdx coordinator
  rw [← announce_eq_foldl] at hsightings hwarnings
  refine ⟨fun _ _ ↦ rfl, fun _ _ ↦ rfl, announce_eq_foldl coordinator news, ?_, hwarnings, ?_⟩
  · have hplaces : coordinator.subscribers.zipIdx.map (·.1) = coordinator.subscribers :=
      List.zipIdx_map_fst 0 coordinator.subscribers
    rw [hsightings, ← hplaces, List.filterMap_map, hplaces]
    rfl
  · intro other hother
    have halike : Alike (coordinator.announce news) (other.announce news) := by
      rw [announce_eq_foldl, announce_eq_foldl]
      exact hother.foldl_hear news hother.subscribers 0
    exact ⟨halike.generated, halike.ledger, halike.delayLimits, halike.sightings⟩

/-- The owner of the counter takes its actions and then fails, or does not fail. -/
theorem announce_in_turn_owner_fails :
    let owner (failure? : Option String) : Subscriber :=
      ⟨.scripted ⟨"owner", [.increment, .increment], [], failure?⟩, .empty⟩
    let later : Subscriber := ⟨.scripted ⟨"later", [], [], none⟩, .empty⟩
    let coordinator (failure? : Option String) : Coordinator :=
      { empty with subscribers := [owner failure?, later], owner? := some 0 }
    let news : News := .event ⟨.connect, .failure, none⟩ fun _ ↦ .elapsed
    ((coordinator (some "boom")).announce news).sightings =
        [.event "owner" .connect .failure, .event "later" .connect .failure]
      ∧ ((coordinator (some "boom")).announce news).warnings =
        [.eventFailed 0 (.observerFailed "boom")]
      ∧ ((coordinator none).announce news).warnings = []
      ∧ ((coordinator (some "boom")).announce news).generated = 2
      ∧ ((coordinator none).announce news).generated = 2 := by
  intro owner later coordinator news
  have hcounted : ((coordinator none).announce news).generated = 2 := by decide +kernel
  have halike : Alike (coordinator (some "boom")) (coordinator none) := ⟨rfl, rfl, rfl, rfl, rfl⟩
  obtain ⟨-, -, -, hsightings, hwarnings, hsame⟩ :=
    announce_in_turn (coordinator (some "boom")) news
  exact ⟨hsightings.trans (by decide +kernel), hwarnings.trans (by decide +kernel),
    by decide +kernel, (hsame _ halike).1.trans hcounted, hcounted⟩

end Coordinator

end LoginThrottle
