import Mathlib.Order.Defs.Unbundled
import SearchBox.Proofs.Grammar.Extension

namespace SearchBox

namespace DataType

variable {s t u : DataType}

@[simp] theorem head?_chain (t : DataType) : t.chain.head? = some t := by
  cases t <;> rfl

@[simp] theorem getLast?_chain (t : DataType) : t.chain.getLast? = some root := by
  induction t with
  | root => rfl
  | sub name precedence accepts read s ih => simp [chain, List.getLast?_cons, ih]

theorem eq_of_chain_eq (h : s.chain = t.chain) : s = t := by
  simpa using congrArg List.head? h

/-- Above a supertype stands what stands above it in the chain. -/
theorem chain_isSuffix_of_mem (h : s ∈ t.chain) : s.chain <:+ t.chain := by
  induction t with
  | root =>
    obtain rfl := List.mem_singleton.1 h
    exact List.suffix_refl _
  | sub name precedence accepts read u ih =>
    rcases List.mem_cons.1 h with rfl | h
    · exact List.suffix_refl _
    · exact (ih h).trans (List.suffix_cons _ _)

theorem mem_chain_trans (hst : t ∈ s.chain) (htu : u ∈ t.chain) : u ∈ s.chain :=
  (chain_isSuffix_of_mem hst).subset htu

theorem eq_of_mem_chain (hst : t ∈ s.chain) (hts : s ∈ t.chain) : s = t := by
  have hsuffix := chain_isSuffix_of_mem hts
  exact eq_of_chain_eq
    (hsuffix.eq_of_length_le (chain_isSuffix_of_mem hst).length_le)

/-- Two types above a third stand one above the other. -/
theorem mem_chain_or_mem_chain (ht : t ∈ s.chain) (hu : u ∈ s.chain) :
    u ∈ t.chain ∨ t ∈ u.chain := by
  rcases List.suffix_or_suffix_of_suffix (chain_isSuffix_of_mem ht) (chain_isSuffix_of_mem hu) with
    h | h
  · exact .inr (h.subset t.self_mem_chain)
  · exact .inl (h.subset u.self_mem_chain)

theorem nodup_chain (t : DataType) : t.chain.Nodup := by
  induction t with
  | root => exact List.nodup_singleton _
  | sub name precedence accepts read s ih =>
    rw [chain, List.nodup_cons]
    refine ⟨fun h => ?_, ih⟩
    -- No type stands above its own supertype: the chain of the latter is too short.
    have hlength := (chain_isSuffix_of_mem h).length_le
    rw [chain, List.length_cons] at hlength
    omega

end DataType

namespace TypeRegistry

/-- One type stands above all others, and from each type one way leads up to it. -/
structure RootedTree (r : TypeRegistry) : Prop where
  names_nodup : r.names.Nodup
  get_root : r.get "*" = .ok .root
  chain_head : ∀ t ∈ r.types, t.chain.head? = some t
  chain_nodup : ∀ t ∈ r.types, (t.chain.map DataType.name).Nodup
  chain_mem : ∀ t ∈ r.types, ∀ s ∈ t.chain, s ∈ r.types
  chain_last : ∀ t ∈ r.types, t.chain.getLast? = some .root
  isPartialOrder : IsPartialOrder {t // t ∈ r.types} fun s t => s.1.isSubtypeOf t.1 = true
  isSubtypeOf_root : ∀ t ∈ r.types, t.isSubtypeOf .root = true
  comparable : ∀ s ∈ r.types, ∀ t ∈ r.types, ∀ u ∈ r.types, s.isSubtypeOf t = true →
    s.isSubtypeOf u = true → t.isSubtypeOf u = true ∨ u.isSubtypeOf t = true

variable {r : TypeRegistry}

namespace WellFormed

variable (hr : r.WellFormed)

include hr

theorem isPartialOrder :
    IsPartialOrder {t // t ∈ r.types} fun s t => s.1.isSubtypeOf t.1 = true where
  refl := by
    rintro ⟨s, hs⟩
    exact (hr.isSubtypeOf_iff hs hs).2 s.self_mem_chain
  trans := by
    rintro ⟨s, hs⟩ ⟨t, ht⟩ ⟨u, hu⟩ hst htu
    rw [hr.isSubtypeOf_iff hs ht] at hst
    rw [hr.isSubtypeOf_iff ht hu] at htu
    exact (hr.isSubtypeOf_iff hs hu).2 (DataType.mem_chain_trans hst htu)
  antisymm := by
    rintro ⟨s, hs⟩ ⟨t, ht⟩ hst hts
    rw [hr.isSubtypeOf_iff hs ht] at hst
    rw [hr.isSubtypeOf_iff ht hs] at hts
    exact Subtype.ext (DataType.eq_of_mem_chain hst hts)

/-- The names in a chain are distinct because the types are, and names tell types apart. -/
theorem nodup_map_name_chain {t : DataType} (ht : t ∈ r.types) :
    (t.chain.map DataType.name).Nodup := by
  refine t.nodup_chain.map_on ?_
  intro s hs u hu hname
  exact hr.eq_of_name_eq (hr.chain_mem t ht s hs) (hr.chain_mem t ht u hu) hname

theorem rootedTree (hroot : .root ∈ r.types) : r.RootedTree where
  names_nodup := hr.names_nodup
  get_root := hr.get_eq_ok_iff.2 ⟨hroot, rfl⟩
  chain_head t _ := t.head?_chain
  chain_nodup _ ht := hr.nodup_map_name_chain ht
  chain_mem := hr.chain_mem
  chain_last t _ := t.getLast?_chain
  isPartialOrder := hr.isPartialOrder
  isSubtypeOf_root t ht := (hr.isSubtypeOf_iff ht hroot).2 t.root_mem_chain
  comparable := by
    intro s hs t ht u hu hst hsu
    rw [hr.isSubtypeOf_iff hs ht] at hst
    rw [hr.isSubtypeOf_iff hs hu] at hsu
    rw [hr.isSubtypeOf_iff ht hu, hr.isSubtypeOf_iff hu ht]
    exact DataType.mem_chain_or_mem_chain hst hsu

end WellFormed

/-- Registration in place: the registry is changed where it stands, and an early return takes
nothing back. -/
def registerInPlace (d : TypeDecl) : StateM TypeRegistry (Except ConfigError DataType) := do
  let r ← MonadState.get
  if r.contains d.name then return .error (.duplicateType d.name)
  match r.get (d.supertype.getD DataType.rootName) with
  | .error e => return .error e
  | .ok supertype =>
    let t := DataType.sub d.name d.precedence d.accepts d.read supertype
    modify (·.insert t)
    return .ok t

theorem run_registerInPlace_of_error {d : TypeDecl} {e : ConfigError}
    (h : r.register d = .error e) : (registerInPlace d).run r = (.error e, r) := by
  rcases register_eq_error_iff.1 h with ⟨hname, rfl⟩ | ⟨hname, hsuper⟩
  · rw [← contains_iff] at hname
    simp [registerInPlace, hname]
    rfl
  · rw [← contains_iff] at hname
    simp [registerInPlace, hname, hsuper]
    rfl

theorem run_registerInPlace_of_ok {d : TypeDecl} {t : DataType} {r' : TypeRegistry}
    (h : r.register d = .ok (t, r')) : (registerInPlace d).run r = (.ok t, r') := by
  obtain ⟨hname, s, hsuper, rfl, rfl⟩ := register_eq_ok h
  simp [registerInPlace, hname, hsuper]
  rfl

/-- The registry after some registrations, whatever becomes of each. -/
def afterAll (r : TypeRegistry) (ds : List TypeDecl) : TypeRegistry :=
  ds.foldl (fun r d => ((registerInPlace d).run r).2) r

theorem Extends.trans {r₁ r₂ r₃ : TypeRegistry} (h₂₁ : r₂.Extends r₁) (h₃₂ : r₃.Extends r₂) :
    r₃.Extends r₁ :=
  fun name t h => h₃₂ name t (h₂₁ name t h)

/-- One registration keeps the tree, and all that was known before it. -/
theorem WellFormed.run_registerInPlace (hr : r.WellFormed) (hroot : .root ∈ r.types)
    (d : TypeDecl) :
    ((registerInPlace d).run r).2.WellFormed ∧ .root ∈ ((registerInPlace d).run r).2.types ∧
      ((registerInPlace d).run r).2.Extends r := by
  cases hregister : r.register d with
  | error e =>
    rw [run_registerInPlace_of_error hregister]
    exact ⟨hr, hroot, fun _ _ h => h⟩
  | ok result =>
    obtain ⟨t, r'⟩ := result
    rw [run_registerInPlace_of_ok hregister]
    refine ⟨hr.register hregister, ?_, hr.extends_of_register hregister⟩
    obtain ⟨-, s, -, -, rfl⟩ := register_eq_ok hregister
    exact mem_insert.2 (.inr hroot)

theorem WellFormed.afterAll (hr : r.WellFormed) (hroot : .root ∈ r.types) (ds : List TypeDecl) :
    (r.afterAll ds).WellFormed ∧ .root ∈ (r.afterAll ds).types ∧ (r.afterAll ds).Extends r := by
  induction ds generalizing r with
  | nil => exact ⟨hr, hroot, fun _ _ h => h⟩
  | cons d ds ih =>
    obtain ⟨hr', hroot', hextends⟩ := hr.run_registerInPlace hroot d
    obtain ⟨hlast, hrootLast, hextendsLast⟩ := ih hr' hroot'
    exact ⟨hlast, hrootLast, hextends.trans hextendsLast⟩

/-- Whatever has been registered, and whatever was refused, the types are a tree under the root. A
refusal changes nothing, and nothing that is registered later changes a type or those above it. -/
theorem rootedTree_afterAll (ds : List TypeDecl) :
    let r := empty.afterAll ds
    r.RootedTree ∧
    (∀ d e, r.register d = .error e → (registerInPlace d).run r = (.error e, r)) ∧
    (∀ d t r', r.register d = .ok (t, r') → (registerInPlace d).run r = (.ok t, r')) ∧
    ∀ later, ∀ name ∈ r.names, ∃ t, r.get name = .ok t ∧ (r.afterAll later).get name = .ok t ∧
      ∀ s ∈ t.chain, r.get s.name = .ok s ∧ (r.afterAll later).get s.name = .ok s := by
  intro r
  have hempty : .root ∈ empty.types := List.mem_singleton_self _
  obtain ⟨hr, hroot, -⟩ := WellFormed.empty.afterAll hempty ds
  refine ⟨hr.rootedTree hroot, fun d e => run_registerInPlace_of_error,
    fun d t r' => run_registerInPlace_of_ok, ?_⟩
  intro later name hname
  obtain ⟨-, -, hextends⟩ := hr.afterAll hroot later
  obtain ⟨t, ht⟩ := exists_get_eq_ok_iff.2 hname
  refine ⟨t, ht, hextends name t ht, fun s hs => ?_⟩
  have hs : r.get s.name = .ok s :=
    hr.get_eq_ok_iff.2 ⟨hr.chain_mem t (mem_of_get ht).1 s hs, rfl⟩
  exact ⟨hs, hextends s.name s hs⟩

theorem rootedTree_afterAll_clash :
    let r := empty.afterAll [{ name := "time", precedence := 1 },
      { name := "span", precedence := 3, supertype := "time" }]
    r.RootedTree ∧
      (registerInPlace { name := "time", precedence := 5 }).run r =
        (.error (.duplicateType "time"), r) ∧
      (registerInPlace { name := "date", precedence := 2, supertype := "time" }).run r =
        (.ok (.sub "date" 2 (!·.isEmpty) .text (.sub "time" 1 (!·.isEmpty) .text .root)),
          r.afterAll [{ name := "date", precedence := 2, supertype := "time" }]) ∧
      ∃ t, r.get "span" = .ok t ∧
        (r.afterAll [{ name := "span", precedence := 9 },
          { name := "date", precedence := 2, supertype := "time" }]).get "span" = .ok t := by
  intro r
  obtain ⟨htree, hrefused, hregistered, hkept⟩ := rootedTree_afterAll
    [{ name := "time", precedence := 1 }, { name := "span", precedence := 3, supertype := "time" }]
  obtain ⟨t, ht, hlater, -⟩ := hkept [{ name := "span", precedence := 9 },
    { name := "date", precedence := 2, supertype := "time" }] "span" (by decide)
  exact ⟨htree, hrefused _ _ rfl, hregistered _ _ _ rfl, t, ht, hlater⟩

end TypeRegistry

end SearchBox
