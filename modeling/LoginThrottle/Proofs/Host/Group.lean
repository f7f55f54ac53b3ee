import LoginThrottle.Proofs.Host.Registry

/-!
Any list of names, repeated ones among them, registered or unregistered as a group. A group is
registered if its names are free and different, and otherwise it is as if it had never been asked
for: the roll-back takes out names that this group has put in, and nobody else's. Unregistering
does not stop at a fault, so afterwards none of the names is there, whatever has been reported.
Either way the fault is that of the first name whose turn fails.
-/

set_option autoImplicit false
set_option relaxedAutoImplicit false

namespace LoginThrottle.Registry

variable {registry next : Registry} {thing : Registration}

/-! ### Registering -/

/-- The turn of this name is the first that fails: the name is refused, or it is registered, be it
by a name of the group before it. A name that is refused is not looked for among the registered. -/
def TakenAtTurn (registry : Registry) (thing : Registration) (names : List String)
    (fault : Fault) : Prop :=
  ∃ before name after, names = before ++ name :: after
    ∧ before.Nodup ∧ (∀ other ∈ before, registry.Free other)
    ∧ if name ∈ registry.refused then
        fault = .registration ("register " ++ thing.noun) ("host refused '" ++ name ++ "'")
      else (name ∈ registry.registered ∨ name ∈ before)
        ∧ fault =
          .registration ("register " ++ thing.noun) ("'" ++ name ++ "' is already registered")

theorem of_registerName_eq_error {name : String} {fault : Fault}
    (h : registry.registerName thing name = .error fault) :
    if name ∈ registry.refused then
      fault = .registration ("register " ++ thing.noun) ("host refused '" ++ name ++ "'")
    else name ∈ registry.registered
      ∧ fault =
        .registration ("register " ++ thing.noun) ("'" ++ name ++ "' is already registered") := by
  unfold registerName holds at h
  simp only [List.contains_iff_mem] at h
  by_cases hrefused : name ∈ registry.refused
  · rw [if_pos hrefused] at h ⊢
    exact (Except.error.inj h).symm
  · rw [if_neg hrefused] at h ⊢
    by_cases hregistered : name ∈ registry.registered
    · rw [if_pos hregistered] at h
      exact ⟨hregistered, (Except.error.inj h).symm⟩
    · rw [if_neg hregistered] at h
      exact absurd h (by simp)

/-- Names that are free and different can all be registered. -/
theorem exists_registerNames_eq_ok {names : List String} (hnodup : names.Nodup)
    (hfree : ∀ name ∈ names, registry.Free name) (thing : Registration) :
    ∃ next, registry.registerNames thing names = .ok next := by
  induction names generalizing registry with
  | nil => exact ⟨registry, rfl⟩
  | cons name rest ih =>
    obtain ⟨hnew, hrest⟩ := List.nodup_cons.mp hnodup
    obtain ⟨reached, hreached⟩ := registerName_eq_ok_of_free (hfree name List.mem_cons_self) thing
    obtain ⟨-, hextends⟩ := of_registerName_eq_ok hreached
    have hlater : ∀ other ∈ rest, reached.Free other := by
      intro other hother
      refine hextends.free_iff.mpr ⟨hfree other (List.mem_cons_of_mem _ hother), fun hmem ↦ ?_⟩
      exact hnew (List.mem_singleton.mp hmem ▸ hother)
    obtain ⟨next, hnext⟩ := ih hrest hlater
    refine ⟨next, ?_⟩
    rw [registerNames_cons, hreached]
    exact hnext

/-- A group is registered as a whole, or the names are what they were. -/
theorem registerGroup_cases (registry : Registry) (thing : Registration) (names : List String) :
    (∃ next, registry.registerGroup thing names = (.ok (), next)
        ∧ names.Nodup ∧ (∀ name ∈ names, registry.Free name) ∧ registry.Extends next names)
      ∨ ∃ fault next, registry.registerGroup thing names = (.error fault, next)
        ∧ registry.TakenAtTurn thing names fault ∧ next.registered = registry.registered := by
  cases hnames : registry.registerNames thing names with
  | ok next =>
    obtain ⟨hfree, hnodup, hextends⟩ := of_registerNames_eq_ok hnames
    exact Or.inl ⟨next, registerGroup_of_ok hnames, hnodup, hfree, hextends⟩
  | error fault =>
    obtain ⟨last, hgroup, hback⟩ := registerGroup_of_error hnames
    obtain ⟨done, name, rest, reached, hsplit, hdone, hfailed, -⟩ := registerEach_of_error hnames
    obtain ⟨hfree, hnodup, hextends⟩ := of_registerNames_eq_ok hdone
    -- At the turn of the name, those of the group before it are registered too.
    have hturn := of_registerName_eq_error hfailed
    rw [hextends.refused, hextends.mem_iff] at hturn
    refine Or.inr ⟨fault, last, hgroup, ⟨done, name, rest, hsplit, hnodup, hfree, hturn⟩, ?_⟩
    rw [← hback.restored]
    exact (List.filter_eq_self.mpr fun _ _ ↦ by simp).symm

theorem registerGroup_eq_ok_iff (registry : Registry) (thing : Registration)
    (names : List String) :
    (registry.registerGroup thing names).1 = .ok () ↔
      names.Nodup ∧ ∀ name ∈ names, registry.Free name := by
  constructor
  · intro hok
    rcases registerGroup_cases registry thing names with
      ⟨next, -, hnodup, hfree, -⟩ | ⟨fault, next, hgroup, -, -⟩
    · exact ⟨hnodup, hfree⟩
    · rw [hgroup] at hok
      exact absurd hok (by simp)
  · rintro ⟨hnodup, hfree⟩
    obtain ⟨next, hnext⟩ := exists_registerNames_eq_ok hnodup hfree thing
    rw [registerGroup_of_ok hnext]

/-! ### Unregistering -/

/-- The turn of this name is the first that fails: the name is not registered, or no longer, since
it was in the group before. -/
def MissingAtTurn (registry : Registry) (thing : Registration) (names : List String)
    (fault : Fault) : Prop :=
  ∃ before name after, names = before ++ name :: after
    ∧ before.Nodup ∧ (∀ other ∈ before, other ∈ registry.registered)
    ∧ (name ∉ registry.registered ∨ name ∈ before)
    ∧ fault = .registration ("unregister " ++ thing.noun) ("'" ++ name ++ "' is not registered")

/-- A name that is registered is taken out, and then the others have their turns. -/
theorem unregisterNames_cons_of_mem {name : String} (h : name ∈ registry.registered)
    (thing : Registration) (rest : List String) :
    ∃ next : Registry, registry.unregisterNames thing (name :: rest) =
        next.unregisterNames thing rest
      ∧ ∀ other, other ∈ next.registered ↔ other ∈ registry.registered ∧ other ≠ name := by
  rw [unregisterNames, unregisterName, holds, if_pos (List.contains_iff_mem.mpr h)]
  refine ⟨_, rfl, fun other ↦ ?_⟩
  rw [List.mem_filter, decide_eq_true_eq]

/-- Names that are unregistered without a fault are all registered and different. -/
theorem unregisterNames_eq_ok_iff (registry : Registry) (thing : Registration)
    (names : List String) :
    (registry.unregisterNames thing names).1 = .ok () ↔
      names.Nodup ∧ ∀ name ∈ names, name ∈ registry.registered := by
  induction names generalizing registry with
  | nil => simp [unregisterNames]
  | cons name rest ih =>
    by_cases hname : name ∈ registry.registered
    · obtain ⟨next, hnext, hregistered⟩ := unregisterNames_cons_of_mem hname thing rest
      rw [hnext, ih, List.nodup_cons, List.forall_mem_cons]
      simp only [hregistered]
      constructor
      · rintro ⟨hnodup, hrest⟩
        exact ⟨⟨fun hmem ↦ (hrest name hmem).2 rfl, hnodup⟩, hname, fun other hother ↦
          (hrest other hother).1⟩
      · rintro ⟨⟨hnew, hnodup⟩, -, hrest⟩
        exact ⟨hnodup, fun other hother ↦ ⟨hrest other hother, fun heq ↦ hnew (heq ▸ hother)⟩⟩
    · refine iff_of_false ?_ fun h ↦ hname (h.2 name List.mem_cons_self)
      rw [unregisterNames, unregisterName, holds, if_neg (mt List.contains_iff_mem.mp hname)]
      simp

theorem missingAtTurn_of_unregisterNames {names : List String} {fault : Fault}
    (h : (registry.unregisterNames thing names).1 = .error fault) :
    registry.MissingAtTurn thing names fault := by
  induction names generalizing registry with
  | nil => exact absurd h (by simp [unregisterNames])
  | cons name rest ih =>
    by_cases hname : name ∈ registry.registered
    · obtain ⟨next, hnext, hregistered⟩ := unregisterNames_cons_of_mem hname thing rest
      rw [hnext] at h
      obtain ⟨before, failed, after, rfl, hnodup, hbefore, hfailed, hfault⟩ := ih h
      have hnew : name ∉ before := fun hmem ↦ ((hregistered name).mp (hbefore name hmem)).2 rfl
      refine ⟨name :: before, failed, after, rfl, List.nodup_cons.mpr ⟨hnew, hnodup⟩,
        List.forall_mem_cons.mpr ⟨hname, fun other hother ↦
          ((hregistered other).mp (hbefore other hother)).1⟩, ?_, hfault⟩
      rcases hfailed with hmissing | hrepeated
      · by_cases hself : failed = name
        · exact Or.inr (hself ▸ List.mem_cons_self)
        · exact Or.inl fun hmem ↦ hmissing ((hregistered failed).mpr ⟨hmem, hself⟩)
      · exact Or.inr (List.mem_cons_of_mem _ hrepeated)
    · rw [unregisterNames, unregisterName, holds,
        if_neg (mt List.contains_iff_mem.mp hname)] at h
      exact ⟨[], name, rest, rfl, List.nodup_nil, fun _ hmem ↦ absurd hmem List.not_mem_nil,
        Or.inl hname, (Except.error.inj h).symm⟩

/-! ### Groups of any names -/

/-- A group that has been registered can be unregistered, and then everything is as before. -/
theorem unregisterNames_of_extends {names : List String} (hnodup : names.Nodup)
    (hextends : registry.Extends next names) (thing : Registration) :
    ∃ last, next.unregisterNames thing names = (.ok (), last)
      ∧ last.registered = registry.registered := by
  refine ⟨(next.unregisterNames thing names).2, Prod.ext ?_ rfl, ?_⟩
  · have hthere : ∀ name ∈ names, name ∈ next.registered := fun name hname ↦
      (hextends.mem_iff name).mpr (Or.inr hname)
    exact (unregisterNames_eq_ok_iff next thing names).mpr ⟨hnodup, hthere⟩
  · rw [registered_unregisterNames, hextends.restored]

/-- Names are registered all together, if they are different and none is registered or refused, and
can be unregistered again; otherwise the registered names stay what they were, and the fault is
that of the first name that fails. Unregistering takes out whatever there is, and fails at the
first name that is missing when it is its turn. A refusal concerns later registrations only. -/
theorem group_all_or_nothing (registry : Registry) (thing : Registration) (names : List String) :
    let registering := registry.registerGroup thing names
    let unregistering := registry.unregisterNames thing names
    (registering.1 = .ok () ↔ names.Nodup ∧ ∀ name ∈ names, registry.Free name)
      ∧ (registering.1 = .ok () →
        (∀ name, name ∈ registering.2.registered ↔ name ∈ registry.registered ∨ name ∈ names)
          ∧ ∃ last, registering.2.unregisterNames thing names = (.ok (), last)
            ∧ last.registered = registry.registered)
      ∧ (∀ fault, registering.1 = .error fault →
        registry.TakenAtTurn thing names fault ∧ registering.2.registered = registry.registered)
      ∧ (unregistering.1 = .ok () ↔ names.Nodup ∧ ∀ name ∈ names, name ∈ registry.registered)
      ∧ (∀ fault, unregistering.1 = .error fault → registry.MissingAtTurn thing names fault)
      ∧ (∀ name, name ∈ unregistering.2.registered ↔
        name ∈ registry.registered ∧ name ∉ names)
      ∧ ∀ name, (registry.refuse name).registered = registry.registered := by
  intro registering unregistering
  refine ⟨registerGroup_eq_ok_iff registry thing names, fun hok ↦ ?_, fun fault hfault ↦ ?_,
    unregisterNames_eq_ok_iff registry thing names,
    fun fault ↦ missingAtTurn_of_unregisterNames, fun name ↦ ?_, fun name ↦ rfl⟩
  · rcases registerGroup_cases registry thing names with
      ⟨next, hgroup, hnodup, -, hextends⟩ | ⟨fault, next, hgroup, -, -⟩
    · have hnext : registering.2 = next := congrArg Prod.snd hgroup
      rw [hnext]
      exact ⟨hextends.mem_iff, unregisterNames_of_extends hnodup hextends thing⟩
    · exact absurd (hok.symm.trans (congrArg Prod.fst hgroup)) (by simp)
  · rcases registerGroup_cases registry thing names with
      ⟨next, hgroup, -, -, -⟩ | ⟨first, next, hgroup, htaken, hkept⟩
    · exact absurd (hfault.symm.trans (congrArg Prod.fst hgroup)) (by simp)
    · obtain rfl := Except.error.inj (hfault.symm.trans (congrArg Prod.fst hgroup))
      exact ⟨htaken, (congrArg (·.2.registered) hgroup).trans hkept⟩
  · have hleft : unregistering.2.registered = registry.registered.filter (· ∉ names) :=
      registered_unregisterNames registry thing names
    rw [hleft, List.mem_filter, decide_eq_true_eq]

/-- A name that is repeated fails at its second turn, and its first is taken back with the rest;
without it the group is registered, and unregistered again. -/
theorem group_all_or_nothing_repeated :
    let registry : Registry := ⟨["a", "c"], ["r"], []⟩
    let group := registry.registerGroup .settings ["d", "b"]
    let repeating := registry.registerGroup .settings ["d", "b", "d", "r"]
    let leaving := registry.unregisterNames .settings ["a", "x", "c"]
    (repeating.1 =
          .error (.registration "register system variables" "'d' is already registered")
        ∧ repeating.2.registered = registry.registered)
      ∧ (group.1 = .ok () ∧ ∃ last, group.2.unregisterNames .settings ["d", "b"] = (.ok (), last)
        ∧ last.registered = registry.registered)
      ∧ leaving.1 =
          .error (.registration "unregister system variables" "'x' is not registered")
      ∧ ∀ name, name ∉ leaving.2.registered := by
  intro registry group repeating leaving
  have hrepeating : repeating.1 =
      .error (.registration "register system variables" "'d' is already registered") := rfl
  have hgroup : group.1 = .ok () := rfl
  have hleaving : leaving.1 =
      .error (.registration "unregister system variables" "'x' is not registered") := rfl
  obtain ⟨-, -, hrolledBack, -⟩ :=
    group_all_or_nothing registry .settings ["d", "b", "d", "r"]
  have hkept := (hrolledBack _ hrepeating).2
  obtain ⟨-, hregistered, -⟩ := group_all_or_nothing registry .settings ["d", "b"]
  have hback := (hregistered hgroup).2
  obtain ⟨-, -, -, -, -, hleft, -⟩ := group_all_or_nothing registry .settings ["a", "x", "c"]
  refine ⟨⟨hrepeating, hkept⟩, ⟨hgroup, hback⟩, hleaving, fun name hname ↦ ?_⟩
  obtain ⟨hregistered, hnot⟩ := (hleft name).mp hname
  simp only [registry, List.mem_cons] at hregistered hnot
  grind

end LoginThrottle.Registry
