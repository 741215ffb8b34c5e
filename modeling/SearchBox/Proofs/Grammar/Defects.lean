import Mathlib.Data.List.Duplicate
import SearchBox.Proofs.Grammar.WellFormed
import SearchBox.Proofs.Phrase.Templates

namespace SearchBox

/-- The root and the types declared. -/
def TypeDecl.names (ds : List TypeDecl) : List String := DataType.rootName :: ds.map TypeDecl.name

/-- What is wrong with a type declared after others: first its own name, then its supertype. -/
inductive TypeDecl.Fault (before : List TypeDecl) (d : TypeDecl) : ConfigError → Prop
  | duplicate (h : d.name ∈ names before) : Fault before d (.duplicateType d.name)
  | supertype {s : String} (hname : d.name ∉ names before) (hs : d.supertype = some s)
      (h : s ∉ names before) : Fault before d (.unknownType s)

/-- The first spelling that is taken or stands twice among the spellings of its entry. -/
def FirstTaken (taken spellings : List String) (s : String) : Prop :=
  (s ∈ taken ∨ spellings.Duplicate s) ∧
    ∃ earlier later, spellings = earlier ++ s :: later ∧
      ∀ t ∈ earlier, t ∉ taken ∧ ¬ spellings.Duplicate t

/-- What is wrong with a filter or an operator: first its type, then its spellings. -/
inductive EntryFault (duplicate : String → ConfigError) (names taken : List String) (type : String)
    (spellings : List String) : ConfigError → Prop
  | unknownType (h : type ∉ names) : EntryFault duplicate names taken type spellings
      (.unknownType type)
  | taken {s : String} (htype : type ∈ names) (h : FirstTaken taken spellings s) :
      EntryFault duplicate names taken type spellings (duplicate s)

def FilterDecl.spellings (d : FilterDecl) : List String := d.name :: d.aliases

def OperatorDecl.spellings (d : OperatorDecl) : List String := d.symbol :: d.aliases

def FilterDecl.Fault (names : List String) (before : List FilterDecl) (d : FilterDecl) :
    ConfigError → Prop :=
  EntryFault .duplicateFilter names (before.flatMap spellings) d.type d.spellings

def OperatorDecl.Fault (names : List String) (before : List OperatorDecl) (d : OperatorDecl) :
    ConfigError → Prop :=
  EntryFault .duplicateOperator names (before.flatMap spellings) d.type d.spellings

/-- What is wrong with a phrase: first its type, then its template from the left. -/
inductive PhraseDecl.Fault (names : List String) (d : PhraseDecl) : ConfigError → Prop
  | unknownType (h : d.type ∉ names) : Fault names d (.unknownType d.type)
  | slot {e : ConfigError} (htype : d.type ∈ names)
      (h : FirstFault (fun _ word e => Slot.Fault names d.template word e)
        (Text.words d.template) e) : Fault names d e
  | empty (htype : d.type ∈ names) (h : Text.words d.template = []) :
      Fault names d (.emptyTemplate d.template)

namespace Config

variable (config : Config)

def typeNames : List String := TypeDecl.names config.types

/-- Types stand under the root or under earlier ones, names and spellings are distinct, all types
in use are declared, and the templates are made of slots. -/
structure WellFormed : Prop where
  names_nodup : (config.types.map TypeDecl.name).Nodup
  root_not_mem : DataType.rootName ∉ config.types.map TypeDecl.name
  supertype : EachAfter (fun before d => ∀ s, d.supertype = some s →
    s = DataType.rootName ∨ s ∈ before.map TypeDecl.name) config.types
  filter_type : ∀ f ∈ config.filters, f.type ∈ config.typeNames
  filter_spellings : (config.filters.flatMap FilterDecl.spellings).Nodup
  operator_type : ∀ o ∈ config.operators, o.type ∈ config.typeNames
  operator_spellings : (config.operators.flatMap OperatorDecl.spellings).Nodup
  phrase_type : ∀ p ∈ config.phrases, p.type ∈ config.typeNames
  words_ne_nil : ∀ p ∈ config.phrases, Text.words p.template ≠ []
  slots : ∀ p ∈ config.phrases, ∀ word ∈ Text.words p.template,
    Slot.WellWritten config.typeNames word

/-- What is wrong with the first bad entry: types come first, then filters, operators, phrases. -/
def FirstDefect (e : ConfigError) : Prop :=
  FirstFault TypeDecl.Fault config.types e ∨ Faultless TypeDecl.Fault config.types ∧
    (FirstFault (FilterDecl.Fault config.typeNames) config.filters e ∨
      Faultless (FilterDecl.Fault config.typeNames) config.filters ∧
        (FirstFault (OperatorDecl.Fault config.typeNames) config.operators e ∨
          Faultless (OperatorDecl.Fault config.typeNames) config.operators ∧
            FirstFault (fun _ => PhraseDecl.Fault config.typeNames) config.phrases e))

end Config

theorem firstTaken?_eq_some_iff {taken spellings : List String} {s : String} :
    firstTaken? taken spellings = some s ↔ FirstTaken taken spellings s := by
  simp [firstTaken?, FirstTaken, List.find?_eq_some_iff_append, List.duplicate_iff_two_le_count,
    Nat.lt_iff_add_one_le]

theorem checkEntry_eq_error_iff {r : TypeRegistry} {names taken spellings : List String}
    {type : String} {duplicate : String → ConfigError} {e : ConfigError}
    (hnames : ∀ name, name ∈ r.names ↔ name ∈ names) :
    r.checkEntry duplicate taken type spellings = .error e ↔
      EntryFault duplicate names taken type spellings e := by
  refine (TypeRegistry.bind_get_eq_error_iff
    (P := ∃ s, FirstTaken taken spellings s ∧ e = duplicate s) fun t => ?_).trans ?_
  · simp only [← firstTaken?_eq_some_iff]
    cases firstTaken? taken spellings with
    | none => simp [pure_ne_error]
    | some s =>
      simp only [Option.some.injEq, exists_eq_left', throw_eq_error]
      exact eq_comm
  rw [hnames]
  constructor
  · rintro (⟨htype, rfl⟩ | ⟨htype, s, hs, rfl⟩)
    · exact .unknownType htype
    · exact .taken htype hs
  · rintro (htype | ⟨htype, hs⟩)
    · exact .inl ⟨htype, rfl⟩
    · exact .inr ⟨htype, _, hs, rfl⟩

theorem compile_eq_error_iff {types : TypeRegistry} {names : List String} {d : PhraseDecl}
    {e : ConfigError} (hnames : ∀ name, name ∈ types.names ↔ name ∈ names) :
    Phrase.compile types d = .error e ↔ PhraseDecl.Fault names d e := by
  refine (TypeRegistry.bind_get_eq_error_iff (P := Slot.readAll types d.template = .error e)
    fun t => by simp [map_eq_error]).trans ?_
  rw [hnames, Slot.readAll_eq_error_iff hnames]
  constructor
  · rintro (⟨htype, rfl⟩ | ⟨htype, hfirst | ⟨hnil, rfl⟩⟩)
    · exact .unknownType htype
    · exact .slot htype hfirst
    · exact .empty htype hnil
  · rintro (htype | ⟨htype, hfirst⟩ | ⟨htype, hnil⟩)
    · exact .inl ⟨htype, rfl⟩
    · exact .inr ⟨htype, .inl hfirst⟩
    · exact .inr ⟨htype, .inr ⟨hnil, rfl⟩⟩

/-- The grammar knows the types and the spellings that the configuration declares. -/
structure Grammar.Declares (g : Grammar) (config : Config) : Prop where
  types : ∀ name, name ∈ g.types.names ↔ name ∈ config.typeNames
  filters : g.filters.flatMap Filter.spellings = config.filters.flatMap FilterDecl.spellings
  operators :
    g.operators.flatMap Operator.spellings = config.operators.flatMap OperatorDecl.spellings

namespace Grammar.Declares

variable {g g' : Grammar} {types : List TypeDecl} {filters : List FilterDecl}
  {operators : List OperatorDecl} {phrases : List PhraseDecl} {e : ConfigError}

theorem empty : Grammar.empty.Declares {} where
  types := by simp [Grammar.empty, TypeRegistry.empty, TypeRegistry.names, Config.typeNames,
    TypeDecl.names, DataType.name]
  filters := rfl
  operators := rfl

theorem addType {d : TypeDecl} (hg : g.Declares { types }) (h : g.addType d = .ok g') :
    g'.Declares { types := types ++ [d] } := by
  obtain ⟨t, r, hr, rfl⟩ := addType_eq_ok h
  obtain ⟨-, s, -, rfl, rfl⟩ := TypeRegistry.register_eq_ok hr
  refine { hg with types := fun name => ?_ }
  rw [TypeRegistry.mem_names_insert, hg.types, or_comm]
  simp [Config.typeNames, TypeDecl.names, DataType.name, or_assoc]

theorem addFilter {d : FilterDecl} (hg : g.Declares { types, filters })
    (h : g.addFilter d = .ok g') : g'.Declares { types, filters := filters ++ [d] } := by
  obtain ⟨t, -, -, rfl⟩ := addFilter_eq_ok h
  refine { hg with filters := ?_ }
  simp [hg.filters, Filter.spellings, FilterDecl.spellings]

theorem addOperator {d : OperatorDecl} (hg : g.Declares { types, filters, operators })
    (h : g.addOperator d = .ok g') :
    g'.Declares { types, filters, operators := operators ++ [d] } := by
  obtain ⟨t, -, -, rfl⟩ := addOperator_eq_ok h
  refine { hg with operators := ?_ }
  simp [hg.operators, Operator.spellings, OperatorDecl.spellings]

theorem addPhrase {d : PhraseDecl} (hg : g.Declares { types, filters, operators, phrases })
    (h : g.addPhrase d = .ok g') :
    g'.Declares { types, filters, operators, phrases := phrases ++ [d] } := by
  obtain ⟨p, -, rfl⟩ := addPhrase_eq_ok h
  exact { hg with }

theorem addType_eq_error_iff {d : TypeDecl} (hg : g.Declares { types }) :
    g.addType d = .error e ↔ TypeDecl.Fault types d e := by
  have hnames : ∀ name, name ∈ g.types.names ↔ name ∈ TypeDecl.names types := hg.types
  have hroot : DataType.rootName ∈ TypeDecl.names types := List.mem_cons_self
  have hregister : g.addType d = .error e ↔ g.types.register d = .error e := by
    simp [Grammar.addType, map_eq_error]
  rw [hregister, TypeRegistry.register_eq_error_iff, TypeRegistry.get_eq_error_iff, hnames, hnames]
  constructor
  · rintro (⟨hname, rfl⟩ | ⟨hname, hsuper, rfl⟩)
    · exact .duplicate hname
    · cases hs : d.supertype with
      | none => simp [hs, hroot] at hsuper
      | some s => exact .supertype hname hs (by simpa [hs] using hsuper)
  · rintro (hname | ⟨hname, hs, h⟩)
    · exact .inl ⟨hname, rfl⟩
    · exact .inr ⟨hname, by simpa [hs] using h, by simp [hs]⟩

theorem addFilter_eq_error_iff {d : FilterDecl} (hg : g.Declares { types, filters }) :
    g.addFilter d = .error e ↔ FilterDecl.Fault (TypeDecl.names types) filters d e := by
  rw [addFilter_eq_map, map_eq_error, FilterDecl.Fault, ← hg.filters]
  exact checkEntry_eq_error_iff hg.types

theorem addOperator_eq_error_iff {d : OperatorDecl}
    (hg : g.Declares { types, filters, operators }) :
    g.addOperator d = .error e ↔ OperatorDecl.Fault (TypeDecl.names types) operators d e := by
  rw [addOperator_eq_map, map_eq_error, OperatorDecl.Fault, ← hg.operators]
  exact checkEntry_eq_error_iff hg.types

theorem addPhrase_eq_error_iff {d : PhraseDecl}
    (hg : g.Declares { types, filters, operators, phrases }) :
    g.addPhrase d = .error e ↔ PhraseDecl.Fault (TypeDecl.names types) d e := by
  have hcompile : g.addPhrase d = .error e ↔ Phrase.compile g.types d = .error e := by
    simp [Grammar.addPhrase, map_eq_error]
  rw [hcompile]
  exact compile_eq_error_iff hg.types

end Grammar.Declares

namespace Grammar

variable {config : Config} {e : ConfigError}

/-- Each list is checked against what the lists and the entries before have declared. -/
theorem build_eq_error_iff : build config = .error e ↔ config.FirstDefect e := by
  have htypes := foldlM_firstFault (I := fun before g => Declares g { types := before })
    (fun _ _ _ _ hg h => hg.addType h) (fun _ _ _ _ hg => hg.addType_eq_error_iff)
    .empty config.types
  refine bind_eq_error_of_firstFault htypes.2 fun g₁ h₁ => ?_
  have hfilters := foldlM_firstFault
    (I := fun before g => Declares g { types := config.types, filters := before })
    (fun _ _ _ _ hg h => hg.addFilter h) (fun _ _ _ _ hg => hg.addFilter_eq_error_iff)
    (htypes.1 g₁ h₁) config.filters
  refine bind_eq_error_of_firstFault hfilters.2 fun g₂ h₂ => ?_
  have hoperators := foldlM_firstFault
    (I := fun before g =>
      Declares g { types := config.types, filters := config.filters, operators := before })
    (fun _ _ _ _ hg h => hg.addOperator h) (fun _ _ _ _ hg => hg.addOperator_eq_error_iff)
    (hfilters.1 g₂ h₂) config.operators
  refine bind_eq_error_of_firstFault hoperators.2 fun g₃ h₃ => ?_
  have hphrases := foldlM_firstFault
    (I := fun before g => Declares g { config with phrases := before })
    (fun _ _ _ _ hg h => hg.addPhrase h) (fun _ _ _ _ hg => hg.addPhrase_eq_error_iff)
    (hoperators.1 g₃ h₃) config.phrases
  exact hphrases.2 e

end Grammar

namespace TypeDecl

variable {types : List TypeDecl}

theorem forall_not_fault_iff {before : List TypeDecl} {d : TypeDecl} :
    (∀ e, ¬ Fault before d e) ↔
      d.name ∉ names before ∧ ∀ s, d.supertype = some s → s ∈ names before := by
  constructor
  · intro h
    have hname : d.name ∉ names before := fun hmem => h _ (.duplicate hmem)
    refine ⟨hname, fun s hs => ?_⟩
    by_contra hmem
    exact h _ (.supertype hname hs hmem)
  · rintro ⟨hname, hsuper⟩ e (hmem | ⟨-, hs, hmem⟩)
    · exact hname hmem
    · exact hmem (hsuper _ hs)

theorem faultless_iff : Faultless Fault types ↔
    (DataType.rootName ∉ types.map name ∧ (types.map name).Nodup) ∧
      EachAfter (fun before d => ∀ s, d.supertype = some s →
        s = DataType.rootName ∨ s ∈ before.map name) types := by
  have hnames (ds : List TypeDecl) :
      names ds = [DataType.rootName] ++ ds.flatMap fun d => [d.name] := by
    simp [names, List.map_eq_flatMap]
  have hnodup : (names types).Nodup ↔ EachAfter (fun before d => d.name ∉ names before) types := by
    simp only [hnames, EachAfter.nodup_flatMap_iff, List.nodup_singleton, true_and,
      List.mem_singleton, forall_eq]
  rw [← List.nodup_cons, ← names, hnodup, ← EachAfter.and_iff]
  refine EachAfter.congr fun before d => forall_not_fault_iff.trans ?_
  simp only [names, List.mem_cons]

end TypeDecl

theorem forall_not_entryFault_iff {names taken spellings : List String} {type : String}
    {duplicate : String → ConfigError} :
    (∀ e, ¬ EntryFault duplicate names taken type spellings e) ↔
      type ∈ names ∧ spellings.Nodup ∧ ∀ s ∈ spellings, s ∉ taken := by
  constructor
  · intro h
    have htype : type ∈ names := by
      by_contra hmem
      exact h _ (.unknownType hmem)
    refine ⟨htype, firstTaken?_eq_none_iff.1 ?_⟩
    cases hs : firstTaken? taken spellings with
    | none => rfl
    | some s => exact absurd (.taken htype (firstTaken?_eq_some_iff.1 hs)) (h (duplicate s))
  · rintro ⟨htype, hfree⟩ e (hmem | ⟨-, hs⟩)
    · exact hmem htype
    · rw [← firstTaken?_eq_some_iff, firstTaken?_eq_none_iff.2 hfree] at hs
      cases hs

theorem faultless_entries_iff {α : Type} {xs : List α} {spellings : α → List String}
    {type : α → String} {names : List String} {duplicate : String → ConfigError} :
    Faultless (fun before x =>
      EntryFault duplicate names (before.flatMap spellings) (type x) (spellings x)) xs ↔
      (∀ x ∈ xs, type x ∈ names) ∧ (xs.flatMap spellings).Nodup := by
  have hnodup : (xs.flatMap spellings).Nodup ↔ EachAfter (fun before x =>
      (spellings x).Nodup ∧ ∀ s ∈ spellings x, s ∉ before.flatMap spellings) xs := by
    simpa only [List.nil_append, List.nodup_nil, true_and] using
      EachAfter.nodup_flatMap_iff [] xs
  rw [hnodup, ← EachAfter.const_iff, ← EachAfter.and_iff]
  exact EachAfter.congr fun before x => forall_not_entryFault_iff

namespace PhraseDecl

variable {names : List String}

theorem forall_not_fault_iff {d : PhraseDecl} :
    (∀ e, ¬ Fault names d e) ↔ d.type ∈ names ∧ Text.words d.template ≠ [] ∧
      ∀ word ∈ Text.words d.template, Slot.WellWritten names word := by
  have hslots : Faultless (fun _ word e => Slot.Fault names d.template word e)
      (Text.words d.template) ↔
      ∀ word ∈ Text.words d.template, Slot.WellWritten names word := by
    rw [← EachAfter.const_iff]
    exact EachAfter.congr fun _ word => Slot.forall_not_fault_iff
  rw [← hslots, SearchBox.faultless_iff]
  constructor
  · intro h
    have htype : d.type ∈ names := by
      by_contra hmem
      exact h _ (.unknownType hmem)
    exact ⟨htype, fun hnil => h _ (.empty htype hnil), fun e hfirst => h e (.slot htype hfirst)⟩
  · rintro ⟨htype, hne, hnone⟩ e (hmem | ⟨-, hfirst⟩ | ⟨-, hnil⟩)
    · exact hmem htype
    · exact hnone e hfirst
    · exact hne hnil

theorem faultless_iff {ds : List PhraseDecl} : Faultless (fun _ => Fault names) ds ↔
    ∀ d ∈ ds, d.type ∈ names ∧ Text.words d.template ≠ [] ∧
      ∀ word ∈ Text.words d.template, Slot.WellWritten names word := by
  rw [← EachAfter.const_iff]
  exact EachAfter.congr fun _ d => forall_not_fault_iff

end PhraseDecl

namespace Config

variable {config : Config}

theorem wellFormed_iff : config.WellFormed ↔ ∀ e, ¬ config.FirstDefect e := by
  have hfilters : Faultless (FilterDecl.Fault config.typeNames) config.filters ↔ _ :=
    faultless_entries_iff
  have hoperators : Faultless (OperatorDecl.Fault config.typeNames) config.operators ↔ _ :=
    faultless_entries_iff
  simp only [FirstDefect, forall_not_firstFault_or_iff, ← faultless_iff]
  rw [TypeDecl.faultless_iff, hfilters, hoperators, PhraseDecl.faultless_iff]
  constructor
  · intro h
    exact ⟨⟨⟨h.root_not_mem, h.names_nodup⟩, h.supertype⟩, ⟨h.filter_type, h.filter_spellings⟩,
      ⟨h.operator_type, h.operator_spellings⟩,
      fun p hp => ⟨h.phrase_type p hp, h.words_ne_nil p hp, h.slots p hp⟩⟩
  · rintro ⟨⟨⟨hroot, hnames⟩, hsuper⟩, ⟨hftype, hfspell⟩, ⟨hotype, hospell⟩, hphrase⟩
    exact
      { names_nodup := hnames
        root_not_mem := hroot
        supertype := hsuper
        filter_type := hftype
        filter_spellings := hfspell
        operator_type := hotype
        operator_spellings := hospell
        phrase_type := fun p hp => (hphrase p hp).1
        words_ne_nil := fun p hp => (hphrase p hp).2.1
        slots := fun p hp => (hphrase p hp).2.2 }

end Config

/-- Exactly the well-formed configurations make a grammar, and any other is refused for the first
defect in it. -/
theorem Grammar.build_verdict (config : Config) :
    ((∃ g, build config = .ok g) ↔ config.WellFormed) ∧
      ∀ e, build config = .error e ↔ config.FirstDefect e := by
  refine ⟨?_, fun e => build_eq_error_iff⟩
  rw [exists_eq_ok_iff, Config.wellFormed_iff]
  exact forall_congr' fun e => not_congr build_eq_error_iff

/-- The alias is taken twice over, but the type comes first. -/
example :
    Grammar.build { filters := [{ name := "due", type := "time", aliases := ["due"] }] } =
      .error (.unknownType "time") :=
  rfl

end SearchBox
