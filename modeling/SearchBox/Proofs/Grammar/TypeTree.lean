import SearchBox.Grammar.TypeRegistry
import SearchBox.Proofs.Checking
import SearchBox.Proofs.Ranked

namespace SearchBox.TypeRegistry

/-- Names tell the types apart, and whatever stands above a type is registered too. -/
structure WellFormed (r : TypeRegistry) : Prop where
  names_nodup : r.names.Nodup
  chain_mem : ∀ t ∈ r.types, ∀ s ∈ t.chain, s ∈ r.types

variable {r : TypeRegistry}

theorem mem_of_get {name : String} {t : DataType} (h : r.get name = .ok t) :
    t ∈ r.types ∧ t.name = name := by
  rw [get] at h
  cases hfind : r.types.find? (·.name == name) with
  | none => simp [hfind] at h
  | some s =>
    obtain rfl : s = t := by simpa [hfind] using h
    exact ⟨List.mem_of_find?_eq_some hfind, by simpa using List.find?_some hfind⟩

/-- All that a successful registration does. -/
theorem register_eq_ok {d : TypeDecl} {t : DataType} {r' : TypeRegistry}
    (h : r.register d = .ok (t, r')) :
    r.contains d.name = false ∧ ∃ s, r.get (d.supertype.getD DataType.rootName) = .ok s ∧
      t = .sub d.name d.precedence d.accepts d.read s ∧ r' = r.insert t := by
  unfold register at h
  by_cases hname : r.contains d.name = true
  · simp [hname, throw_bind] at h
  · simp only [hname, Bool.false_eq_true, if_false] at h
    obtain ⟨s, hsuper, h⟩ := bind_eq_ok.1 h
    obtain ⟨rfl, rfl⟩ := Prod.mk.inj (pure_eq_ok.1 h)
    exact ⟨by simpa using hname, s, hsuper, rfl, rfl⟩

theorem mem_insert {s t : DataType} : s ∈ (r.insert t).types ↔ s = t ∨ s ∈ r.types :=
  Ranked.mem_insert _

theorem contains_iff {name : String} : r.contains name = true ↔ name ∈ r.names := by
  simp [contains, names]

theorem get_eq_error_iff {name : String} {e : ConfigError} :
    r.get name = .error e ↔ name ∉ r.names ∧ e = .unknownType name := by
  rw [← contains_iff, contains, get]
  cases hfind : r.types.find? (·.name == name) with
  | none =>
    have hany : r.types.any (·.name == name) = false := by
      simpa [List.any_eq_false] using hfind
    simp [hany, eq_comm]
  | some t =>
    have ht : (t.name == name) = true := by simpa using List.find?_some hfind
    have hany : r.types.any (·.name == name) = true :=
      List.any_eq_true.2 ⟨t, List.mem_of_find?_eq_some hfind, ht⟩
    simp [hany]

theorem exists_get_eq_ok_iff {name : String} : (∃ t, r.get name = .ok t) ↔ name ∈ r.names := by
  simp [exists_eq_ok_iff, get_eq_error_iff]

/-- The type is looked up first, and what follows only fails for a type that is known. -/
theorem bind_get_eq_error_iff {β : Type} {name : String} {e : ConfigError}
    {next : DataType → Except ConfigError β} {P : Prop} (hnext : ∀ t, next t = .error e ↔ P) :
    r.get name >>= next = .error e ↔
      (name ∉ r.names ∧ e = .unknownType name) ∨ name ∈ r.names ∧ P := by
  simp only [bind_eq_error, get_eq_error_iff, hnext, exists_and_right, exists_get_eq_ok_iff]

theorem register_eq_error_iff {d : TypeDecl} {e : ConfigError} :
    r.register d = .error e ↔
      (d.name ∈ r.names ∧ e = .duplicateType d.name) ∨
        d.name ∉ r.names ∧ r.get (d.supertype.getD DataType.rootName) = .error e := by
  rw [← contains_iff, register]
  by_cases hname : r.contains d.name = true
  · simp [hname, throw_bind, eq_comm]
  · simp [hname, map_eq_error]

theorem mem_names_insert {name : String} {t : DataType} :
    name ∈ (r.insert t).names ↔ name = t.name ∨ name ∈ r.names := by
  have hperm := (Ranked.insert_perm DataType.precedence t r.types).map DataType.name
  exact hperm.mem_iff.trans List.mem_cons

namespace WellFormed

theorem eq_of_name_eq (hr : r.WellFormed) {s t : DataType} (hs : s ∈ r.types) (ht : t ∈ r.types)
    (h : s.name = t.name) : s = t :=
  List.inj_on_of_nodup_map hr.names_nodup hs ht h

/-- Among registered types the comparison by name finds the type itself. -/
theorem isSubtypeOf_iff (hr : r.WellFormed) {s t : DataType} (hs : s ∈ r.types)
    (ht : t ∈ r.types) : s.isSubtypeOf t = true ↔ t ∈ s.chain := by
  rw [DataType.isSubtypeOf, List.any_eq_true]
  constructor
  · rintro ⟨u, hu, hname⟩
    have heq : u.name = t.name := eq_of_beq (hname : (u.name == t.name) = true)
    rwa [hr.eq_of_name_eq (hr.chain_mem s hs u hu) ht heq] at hu
  · intro h
    exact ⟨t, h, (beq_self_eq_true t.name : (t.name == t.name) = true)⟩

theorem get_eq_ok_iff (hr : r.WellFormed) {name : String} {t : DataType} :
    r.get name = .ok t ↔ t ∈ r.types ∧ t.name = name := by
  constructor
  · exact mem_of_get
  · rintro ⟨ht, rfl⟩
    obtain ⟨s, hs⟩ := exists_get_eq_ok_iff.2 (List.mem_map_of_mem ht : t.name ∈ r.names)
    obtain ⟨hmem, hname⟩ := mem_of_get hs
    rw [hs, hr.eq_of_name_eq hmem ht hname]

theorem empty : TypeRegistry.empty.WellFormed where
  names_nodup := by decide
  chain_mem := by
    intro t ht s hs
    obtain rfl : t = .root := by simpa [TypeRegistry.empty] using ht
    simpa [DataType.chain, TypeRegistry.empty] using hs

theorem insert (hr : r.WellFormed) {name : String} {precedence : Int} {accepts : String → Bool}
    {read : String → Value} {s : DataType} (hname : r.contains name = false) (hs : s ∈ r.types) :
    (r.insert (.sub name precedence accepts read s)).WellFormed where
  names_nodup := by
    have hperm := (Ranked.insert_perm DataType.precedence
      (.sub name precedence accepts read s) r.types).map DataType.name
    refine (hperm.nodup_iff).2 (List.nodup_cons.2 ⟨?_, hr.names_nodup⟩)
    intro hmem
    obtain ⟨t, ht, hn⟩ := List.mem_map.1 hmem
    have : r.contains name = true := List.any_eq_true.2 ⟨t, ht, beq_iff_eq.2 hn⟩
    simp [this] at hname
  chain_mem := by
    intro t ht u hu
    rw [mem_insert] at ht ⊢
    rcases ht with rfl | ht
    · rw [DataType.chain, List.mem_cons] at hu
      rcases hu with rfl | hu
      · exact .inl rfl
      · exact .inr (hr.chain_mem s hs u hu)
    · exact .inr (hr.chain_mem t ht u hu)

theorem register (hr : r.WellFormed) {d : TypeDecl} {t : DataType} {r' : TypeRegistry}
    (h : r.register d = .ok (t, r')) : r'.WellFormed := by
  obtain ⟨hname, s, hs, rfl, rfl⟩ := register_eq_ok h
  exact hr.insert hname (mem_of_get hs).1

end WellFormed

end SearchBox.TypeRegistry
