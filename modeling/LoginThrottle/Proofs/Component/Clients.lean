import LoginThrottle.Proofs.Component.Agreement

/-!
Clients that change the settings of one component, each either in one call or by a check and, where
that lets the value through, a commit later on. The commit is not checked again, and in between
another client may move the other delay bound past the value: to keep such changes apart is left to
the host. `agreement_lost_to_overtaken_check` shows what comes of it otherwise, and
`agrees_iff_none_overtaken` that nothing else can go wrong.
-/

set_option autoImplicit false
set_option relaxedAutoImplicit false

namespace LoginThrottle.Component

/-- A change that a client is to make: in one call, or with a check before it. -/
inductive Request
  | atOnce (name : String) (value : Int64)
  | checkFirst (name : String) (value : Int64)
  deriving DecidableEq, Repr

/-- A client: the change that it has had checked and not committed yet, and those still to make. -/
structure Client where
  checked? : Option (String × Int64)
  requests : List Request
  deriving DecidableEq, Repr

/-- The change that a check lets through. -/
def accepted? (component : Component) (name : String) (value : Int64) : Option (String × Int64) :=
  match component.check name value with
  | .ok _ => some (name, value)
  | .error _ => none

/-- A change that a check lets through is of a setting, and fits the settings as they are. -/
theorem accepted?_eq_some {component : Component} {name : String} {value : Int64}
    {change : String × Int64} (h : component.accepted? name value = some change) :
    ∃ setting, Setting.read change.1 = .ok setting
      ∧ component.settings.check setting change.2 = .ok () := by
  rw [accepted?, check] at h
  cases hname : Setting.read name with
  | error fault => simp [hname, bind, Except.bind] at h
  | ok setting =>
    cases hcheck : component.settings.check setting value with
    | error fault => simp [hname, hcheck, bind, Except.bind] at h
    | ok accepted =>
      simp only [hname, hcheck, bind, Except.bind, pure, Except.pure, Option.some.injEq] at h
      subst h
      exact ⟨setting, hname, hcheck⟩

/-- The next call of a client, if it has one to make. -/
def Client.act (component : Component) : Client → Component × Client
  | ⟨some (name, value), requests⟩ => (component.perform (.update name value), ⟨none, requests⟩)
  | ⟨none, .atOnce name value :: rest⟩ => (component.perform (.set name value), ⟨none, rest⟩)
  | ⟨none, .checkFirst name value :: rest⟩ => (component, ⟨component.accepted? name value, rest⟩)
  | ⟨none, []⟩ => (component, ⟨none, []⟩)

/-- The commit of a change to a named setting. -/
theorem perform_update {name : String} {setting : Setting} (hname : Setting.read name = .ok setting)
    (component : Component) (value : Int64) :
    component.perform (.update name value) = component.commit setting value := by
  rw [Component.perform, update, hname]
  rfl

/-- A component and its clients. -/
structure Clientele where
  component : Component
  clients : List Client

namespace Clientele

def start (component : Component) (requests : List (List Request)) : Clientele :=
  ⟨component, requests.map (⟨none, ·⟩)⟩

/-- The client of this number makes its next call. -/
def step (clientele : Clientele) (number : Nat) : Clientele :=
  match clientele.clients[number]? with
  | some client =>
    let (component, later) := client.act clientele.component
    ⟨component, clientele.clients.set number later⟩
  | none => clientele

/-- The calls of the clients, in the order in which their numbers come. -/
def run (clientele : Clientele) (schedule : List Nat) : Clientele :=
  schedule.foldl step clientele

/-- The change that the client of this number has had checked and not committed yet. -/
def pending? (clientele : Clientele) (number : Nat) : Option (String × Int64) :=
  clientele.clients[number]?.bind Client.checked?

/-- What the client of this number has had checked is on the wrong side of the other delay bound
by now. -/
def isOvertaken (clientele : Clientele) (number : Nat) : Bool :=
  match clientele.pending? number with
  | some (name, value) =>
    match Setting.read name with
    | .ok setting => (clientele.component.settings.conflict? setting value).isSome
    | .error _ => false
  | none => false

/-! ### One call -/

variable {clientele : Clientele} {number : Nat}

/-- A call of one client leaves what others have had checked alone. -/
theorem pending?_set {client : Client} (hclient : clientele.clients[number]? = some client)
    (component : Component) (later : Client) (other : Nat) :
    pending? ⟨component, clientele.clients.set number later⟩ other =
      if other = number then later.checked? else clientele.pending? other := by
  rw [pending?, pending?]
  by_cases hother : other = number
  · subst hother
    obtain ⟨hroom, -⟩ := List.getElem?_eq_some_iff.mp hclient
    rw [if_pos rfl, List.getElem?_set_self hroom]
    rfl
  · rw [if_neg hother, List.getElem?_set_ne (Ne.symm hother)]

/-- What a call of a client can be: a commit, a change in one call, or at most a check. -/
theorem step_cases (clientele : Clientele) (number : Nat) :
    ∃ left : Option (String × Int64),
      (∀ other, (clientele.step number).pending? other =
        if other = number then left else clientele.pending? other)
      ∧ ((∃ name value, clientele.pending? number = some (name, value) ∧ left = none
          ∧ (clientele.step number).component = clientele.component.perform (.update name value))
        ∨ clientele.pending? number = none
          ∧ ((∃ name value, left = none
            ∧ (clientele.step number).component = clientele.component.perform (.set name value))
          ∨ (clientele.step number).component = clientele.component
            ∧ (left = none ∨ ∃ name value, left = clientele.component.accepted? name value))) := by
  cases hclient : clientele.clients[number]? with
  | none =>
    have hstep : clientele.step number = clientele := by rw [step, hclient]
    have hpending : clientele.pending? number = none := by rw [pending?, hclient]; rfl
    rw [hstep]
    refine ⟨none, fun other ↦ ?_, Or.inr ⟨hpending, Or.inr ⟨rfl, Or.inl rfl⟩⟩⟩
    by_cases hother : other = number
    · rw [if_pos hother, hother, hpending]
    · rw [if_neg hother]
  | some client =>
    have hstep : clientele.step number = ⟨(client.act clientele.component).1,
        clientele.clients.set number (client.act clientele.component).2⟩ := by
      rw [step, hclient]
    have hpending : clientele.pending? number = client.checked? := by rw [pending?, hclient]; rfl
    rw [hstep]
    refine ⟨_, pending?_set hclient _ _, ?_⟩
    match client with
    | ⟨some (name, value), requests⟩ => exact Or.inl ⟨name, value, hpending, rfl, rfl⟩
    | ⟨none, .atOnce name value :: rest⟩ =>
      exact Or.inr ⟨hpending, Or.inl ⟨name, value, rfl, rfl⟩⟩
    | ⟨none, .checkFirst name value :: rest⟩ =>
      exact Or.inr ⟨hpending, Or.inr ⟨rfl, Or.inr ⟨name, value, rfl⟩⟩⟩
    | ⟨none, []⟩ => exact Or.inr ⟨hpending, Or.inr ⟨rfl, Or.inl rfl⟩⟩

/-- A change that is pending after a call was so before, or has just been checked. -/
theorem pending?_step {other : Nat} {change : String × Int64}
    (h : (clientele.step number).pending? other = some change) :
    other ≠ number ∧ clientele.pending? other = some change
      ∨ (clientele.step number).component = clientele.component
        ∧ ∃ setting, Setting.read change.1 = .ok setting
          ∧ clientele.component.settings.check setting change.2 = .ok () := by
  obtain ⟨left, hpending, hcall⟩ := clientele.step_cases number
  rw [hpending] at h
  by_cases hother : other = number
  · rw [if_pos hother] at h
    rcases hcall with ⟨-, -, -, hleft, -⟩ |
      ⟨-, ⟨-, -, hleft, -⟩ | ⟨hsame, hleft | ⟨name, value, hleft⟩⟩⟩
    · exact absurd (hleft.symm.trans h) (by simp)
    · exact absurd (hleft.symm.trans h) (by simp)
    · exact absurd (hleft.symm.trans h) (by simp)
    · exact Or.inr ⟨hsame, accepted?_eq_some (hleft.symm.trans h)⟩
  · rw [if_neg hother] at h
    exact Or.inl ⟨hother, h⟩

theorem isOvertaken_eq_true_iff (clientele : Clientele) (number : Nat) :
    clientele.isOvertaken number = true ↔
      ∃ name value setting, clientele.pending? number = some (name, value)
        ∧ Setting.read name = .ok setting
        ∧ clientele.component.settings.conflict? setting value ≠ none := by
  rw [isOvertaken]
  cases clientele.pending? number with
  | none => simp
  | some change =>
    obtain ⟨name, value⟩ := change
    simp only [Option.some.injEq, Prod.mk.injEq]
    constructor
    · intro h
      cases hname : Setting.read name with
      | error fault => simp [hname] at h
      | ok setting =>
        rw [hname] at h
        exact ⟨name, value, setting, ⟨rfl, rfl⟩, hname, Option.isSome_iff_ne_none.mp h⟩
    · rintro ⟨_, _, setting, ⟨rfl, rfl⟩, hname, hconflict⟩
      rw [hname]
      exact Option.isSome_iff_ne_none.mpr hconflict

/-! ### Runs in which no commit comes too late -/

/-- The component is as it should be, and every pending change is in its range. -/
structure Orderly (clientele : Clientele) : Prop where
  service : clientele.component.InService
  agrees : clientele.component.Agrees
  inRange : ∀ number name value, clientele.pending? number = some (name, value) →
    ∃ setting, Setting.read name = .ok setting ∧ setting.bounds.contains value = true

namespace Orderly

theorem step (h : clientele.Orderly) (hovertaken : clientele.isOvertaken number = false) :
    (clientele.step number).Orderly := by
  have hrange : ∀ other name value, (clientele.step number).pending? other = some (name, value) →
      ∃ setting, Setting.read name = .ok setting ∧ setting.bounds.contains value = true := by
    intro other name value hother
    rcases pending?_step hother with ⟨-, hpending⟩ | ⟨-, setting, hname, hcheck⟩
    · exact h.inRange other name value hpending
    · exact ⟨setting, hname, ((Settings.check_eq_ok_iff_contains _ _ _).mp hcheck).1⟩
  obtain ⟨left, -, hcall⟩ := clientele.step_cases number
  rcases hcall with ⟨name, value, hpending, -, heq⟩ | ⟨-, ⟨name, value, -, heq⟩ | ⟨heq, -⟩⟩
  · -- The value has stayed in its range, and the other bound has not been moved past it.
    obtain ⟨setting, hname, hcontains⟩ := h.inRange number name value hpending
    have hconflict : clientele.component.settings.conflict? setting value = none := by
      refine Decidable.byContradiction fun hconflict ↦ ?_
      have hlate : clientele.isOvertaken number = true :=
        (clientele.isOvertaken_eq_true_iff number).mpr
          ⟨name, value, setting, hpending, hname, hconflict⟩
      exact absurd (hovertaken.symm.trans hlate) Bool.false_ne_true
    have hcheck : clientele.component.settings.check setting value = .ok () :=
      (Settings.check_eq_ok_iff_contains _ _ _).mpr ⟨hcontains, hconflict⟩
    rw [perform_update hname] at heq
    exact
      { service := heq ▸ (h.service.commit setting value).1
        agrees := heq ▸ h.agrees.commit h.service hcheck
        inRange := hrange }
  · exact
      { service := heq ▸ h.service.perform (.set name value)
        agrees := heq ▸ h.agrees.perform h.service (by simp)
        inRange := hrange }
  · exact
      { service := heq ▸ h.service
        agrees := heq ▸ h.agrees
        inRange := hrange }

end Orderly

/-- A commit that comes too late leaves the least delay above the greatest. -/
theorem not_valid_step_of_isOvertaken (hvalid : clientele.component.settings.Valid)
    (h : clientele.isOvertaken number = true) :
    ¬ (clientele.step number).component.settings.Valid := by
  intro hnext
  obtain ⟨name, value, setting, hpending, hname, hconflict⟩ :=
    (clientele.isOvertaken_eq_true_iff number).mp h
  have hsettings : (clientele.step number).component.settings =
      clientele.component.settings.set setting value := by
    obtain ⟨left, -, ⟨_, _, hchange, -, heq⟩ | ⟨hnone, -⟩⟩ := clientele.step_cases number
    · obtain ⟨rfl, rfl⟩ := Prod.mk.inj (Option.some.inj (hchange.symm.trans hpending))
      rw [heq, perform_update hname]
      rfl
    · exact absurd (hnone.symm.trans hpending) (by simp)
  rw [hsettings] at hnext
  have hcheck := (hvalid.check_eq_ok_iff setting value).mpr hnext
  exact hconflict ((Settings.check_eq_ok_iff_contains _ _ _).mp hcheck).2

/-! ### Runs -/

theorem pending?_start (component : Component) (requests : List (List Request)) (number : Nat) :
    (start component requests).pending? number = none := by
  rw [pending?, start, List.getElem?_map]
  cases requests[number]? <;> rfl

theorem orderly_start {component : Component} (hservice : component.InService)
    (hagrees : component.Agrees) (requests : List (List Request)) :
    (start component requests).Orderly where
  service := hservice
  agrees := hagrees
  inRange number name value h := absurd ((pending?_start _ _ number).symm.trans h) (by simp)

theorem run_take_succ {schedule : List Nat} {n : Nat} (h : schedule[n]? = some number) :
    clientele.run (schedule.take (n + 1)) = (clientele.run (schedule.take n)).step number := by
  rw [run, List.take_add_one, h, List.foldl_append]
  rfl

/-- As long as no commit comes too late, all is in order. -/
theorem Orderly.run (h : clientele.Orderly) {schedule : List Nat}
    (hovertaken : ∀ n number, schedule[n]? = some number →
      (clientele.run (schedule.take n)).isOvertaken number = false) (n : Nat) :
    (clientele.run (schedule.take n)).Orderly := by
  induction n with
  | zero => exact h
  | succ n ih =>
    cases hnumber : schedule[n]? with
    | some number =>
      rw [run_take_succ hnumber]
      exact ih.step (hovertaken n number hnumber)
    | none =>
      rw [List.take_add_one, hnumber, Option.toList_none, List.append_nil]
      exact ih

theorem agrees_of_none_overtaken {σ : Type} {host : Host σ} {initial : Settings} {state : σ}
    {component : Component} (loaded : (load host initial state).result = .ok component)
    {requests : List (List Request)} {schedule : List Nat}
    (hovertaken : ∀ n number, schedule[n]? = some number →
      ((start component requests).run (schedule.take n)).isOvertaken number = false) (n : Nat) :
    ((start component requests).run (schedule.take n)).component.Agrees := by
  obtain ⟨hvalid, rfl⟩ := eq_fresh_of_load loaded
  have hstart := orderly_start (inService_fresh initial) (agrees_fresh hvalid) requests
  exact (hstart.run hovertaken n).agrees

/-- At every moment the delay policy enforces the committed settings and these are valid, exactly
if no client commits a value after another has moved the other delay bound past it. -/
theorem agrees_iff_none_overtaken {σ : Type} {host : Host σ} {initial : Settings} {state : σ}
    {component : Component} (loaded : (load host initial state).result = .ok component)
    (requests : List (List Request)) (schedule : List Nat) :
    let reached (n : Nat) := (start component requests).run (schedule.take n)
    (∀ n, (reached n).component.limits = (reached n).component.settings
        ∧ (reached n).component.settings.Valid) ↔
      ∀ n number, schedule[n]? = some number → (reached n).isOvertaken number = false := by
  intro reached
  constructor
  · intro h n number hnumber
    refine Bool.eq_false_iff.mpr fun hlate ↦ ?_
    have hnext : reached (n + 1) = (reached n).step number := run_take_succ hnumber
    have hinvalid := not_valid_step_of_isOvertaken (h n).2 hlate
    rw [← hnext] at hinvalid
    exact hinvalid (h (n + 1)).2
  · intro h n
    have hagrees := agrees_of_none_overtaken loaded h n
    exact ⟨hagrees.limits_eq, hagrees.valid⟩

/-- Clients between whose calls another commits in time. -/
theorem agrees_iff_none_overtaken_in_time :
    let requests : List (List Request) :=
      [[.checkFirst Setting.minDelay.name 5000], [.atOnce "MAX_connection_delay" 9000]]
    let reached (n : Nat) := (start (fresh .standard) requests).run ([0, 1, 0].take n)
    (load Registry.host .standard .empty).result = .ok (fresh .standard)
      ∧ (∀ n, (reached n).component.limits = (reached n).component.settings
        ∧ (reached n).component.settings.Valid)
      ∧ (reached 3).component.settings = ⟨3, 5000, 9000⟩ := by
  intro requests reached
  have loaded : (load Registry.host .standard .empty).result = .ok (fresh .standard) :=
    load_registry (Settings.standard.valid_iff.mpr (by decide))
  have hevery : (∀ n : Fin 3, (reached n).isOvertaken [0, 1, 0][n] = false)
      ∧ (reached 3).component.settings = ⟨3, 5000, 9000⟩ := by
    decide +kernel
  have hovertaken : ∀ n number, [0, 1, 0][n]? = some number →
      (reached n).isOvertaken number = false := by
    intro n number hnumber
    obtain ⟨hroom, rfl⟩ := List.getElem?_eq_some_iff.mp hnumber
    exact hevery.1 ⟨n, hroom⟩
  exact ⟨loaded, (agrees_iff_none_overtaken loaded requests [0, 1, 0]).mpr hovertaken, hevery.2⟩

/-- The greatest delay is lowered between the check of a higher least delay and its commit. -/
theorem agreement_lost_to_overtaken_check :
    let requests : List (List Request) :=
      [[.checkFirst Setting.minDelay.name 5000], [.atOnce Setting.maxDelay.name 2000]]
    let reached := (start (fresh .standard) requests).run [0, 1, 0]
    (load Registry.host .standard .empty).result = .ok (fresh .standard)
      ∧ (∀ client ∈ reached.clients, client = ⟨none, []⟩)
      ∧ reached.component.settings = ⟨3, 5000, 2000⟩
      ∧ reached.component.limits = ⟨3, 1000, 2000⟩
      ∧ ¬ (reached.component.limits = reached.component.settings
        ∧ reached.component.settings.Valid) := by
  intro requests reached
  have loaded : (load Registry.host .standard .empty).result = .ok (fresh .standard) :=
    load_registry (Settings.standard.valid_iff.mpr (by decide))
  have hreached : (∀ client ∈ reached.clients, client = ⟨none, []⟩)
      ∧ reached.component.settings = ⟨3, 5000, 2000⟩
      ∧ reached.component.limits = ⟨3, 1000, 2000⟩ := by
    decide +kernel
  obtain ⟨hclients, hsettings, hlimits⟩ := hreached
  refine ⟨loaded, hclients, hsettings, hlimits, fun ⟨hagrees, _⟩ ↦ ?_⟩
  rw [hsettings, hlimits] at hagrees
  exact absurd hagrees (by decide)

/-! ### Changes kept apart -/

/-- Where no client calls while another has a change pending, nobody is overtaken: what is pending
after a call has been checked by that very call. -/
theorem none_overtaken_of_kept_apart {component : Component} {requests : List (List Request)}
    {schedule : List Nat}
    (hapart : ∀ n number other change, schedule[n]? = some number →
      ((start component requests).run (schedule.take n)).pending? other = some change →
      other = number) (n other : Nat) :
    ((start component requests).run (schedule.take n)).isOvertaken other = false := by
  induction n generalizing other with
  | zero =>
    have hnone : ((start component requests).run (schedule.take 0)).pending? other = none :=
      pending?_start component requests other
    rw [isOvertaken, hnone]
  | succ n ih =>
    cases hnumber : schedule[n]? with
    | none =>
      rw [List.take_add_one, hnumber, Option.toList_none, List.append_nil]
      exact ih other
    | some number =>
      rw [run_take_succ hnumber, Bool.eq_false_iff, Ne, isOvertaken_eq_true_iff]
      rintro ⟨name, value, setting, hpending, hname, hconflict⟩
      rcases pending?_step hpending with ⟨hother, hbefore⟩ | ⟨hsame, checked, hread, hcheck⟩
      · exact hother (hapart n number other _ hnumber hbefore)
      · obtain rfl := Except.ok.inj (hread.symm.trans hname)
        rw [hsame] at hconflict
        exact hconflict ((Settings.check_eq_ok_iff_contains _ _ _).mp hcheck).2

/-- A host that lets no client call while another is between its check and its commit keeps the
delay policy and the committed settings together. -/
theorem agrees_of_kept_apart {σ : Type} {host : Host σ} {initial : Settings} {state : σ}
    {component : Component} (loaded : (load host initial state).result = .ok component)
    {requests : List (List Request)} {schedule : List Nat}
    (hapart : ∀ n number other change, schedule[n]? = some number →
      ((start component requests).run (schedule.take n)).pending? other = some change →
      other = number) (n : Nat) :
    ((start component requests).run (schedule.take n)).component.Agrees :=
  agrees_of_none_overtaken loaded (fun n number _ ↦ none_overtaken_of_kept_apart hapart n number) n

end Clientele

end LoginThrottle.Component
