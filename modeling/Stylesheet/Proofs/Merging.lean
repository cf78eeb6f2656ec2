import Stylesheet.CommandLine.Options

/-!
# How a configuration and arguments are merged

A configuration may hold anything. Of all it says, two things count: the value of `format` and the list
`skip` in its table `output` (`outputValue?`, `skipItems`). The arguments may name a format too, and types
of token to leave out. What is mentioned in either place is one collection (`mentions`): where a name
stands, in which order and how often makes no difference.

Something that names nothing is objected to: first a format in the configuration, also where the arguments
override it, then an item of its list, then what a flag is given (`FirstObjection`). Merging fails exactly
if there is such a thing, and it fails for the first (`FirstObjection.merge_eq`). If there is none, the options
are what the arguments and the configuration say (`Merged`). Main statement: `merge_options`.
-/

namespace Stylesheet.CommandLine

/-! ### What a configuration and arguments say -/

/-- The value of a key in the table `output` of a configuration. Anything else of that name has none. -/
def outputValue? (c : Config) (key : String) : Option Toml.Value :=
  match c.lookup "output" with
  | some (.table entries) => entries.lookup key
  | _ => none

/-- The items of the list `skip` in that table. Anything else of that name has none. -/
def skipItems (c : Config) : List Toml.Value :=
  match outputValue? c "skip" with
  | some (.array items) => items
  | _ => []

/-- What types of token are to be left out, in the configuration and then in the arguments: each value
as it is shown, and each word as it is given. A value that cannot be shown and a flag that is given nothing
have no name. -/
def mentions (c : Config) (a : Arguments) : List (Option String) :=
  (skipItems c).map (fun v => v.bare.toOption) ++ a.skip

/-- `NamesFormat v`: the value is one of the two names of formats. -/
def NamesFormat (v : Toml.Value) : Prop := v = .string "text" ∨ v = .string "json"

/-- `NamesType m`: what is mentioned is the name of a type of token. -/
def NamesType (m : Option String) : Prop := ∃ type : TokenType, m = some type.name

theorem outputValue?_eq (c : Config) (key : String) : outputValue? c key = (outputTable c).lookup key := by
  unfold outputValue? outputTable
  cases c.lookup "output" with
  | none => rfl
  | some v => cases v <;> rfl

theorem namesFormat_name (f : Format) : NamesFormat (.string f.name) := by
  cases f
  · exact .inl rfl
  · exact .inr rfl

theorem eq_of_formatName_eq {f g : Format} (h : f.name = g.name) : f = g := by
  have hread : ∀ f : Format, Format.ofName? f.name = some f := by
    intro f
    cases f
    all_goals decide
  have hsame := congrArg Format.ofName? h
  rwa [hread, hread, Option.some.injEq] at hsame

theorem ofName?_eq_some_iff {name : String} {type : TokenType} :
    TokenType.ofName? name = some type ↔ name = type.name := by
  constructor
  · intro h
    have hname := List.find?_some h
    exact (beq_iff_eq.1 hname).symm
  · rintro rfl
    exact TokenType.ofName?_name type

/-! ### Objections -/

/-- Something that there are no options for. -/
inductive Objection where
  /-- A format in the configuration. -/
  | format (v : Toml.Value)
  /-- An item of the list in the configuration. -/
  | item (v : Toml.Value)
  /-- What a flag is given. -/
  | word (name : Option String)

/-- What comes of an objection. It shows the value that it is about; one that cannot be shown makes the
call break off. -/
def Objection.failure : Objection → OptionFailure
  | .format v =>
    match v.literal with
    | .ok text => .rejected (.badFormat text)
    | .error u => .broken (.unshowable u)
  | .item v =>
    match v.bare with
    | .ok name => .rejected (.unknownType (some name))
    | .error u => .broken (.unshowable u)
  | .word name => .rejected (.unknownType name)

/-- `FirstObjection c a x`: of all that is to be objected to in a configuration and arguments, `x` comes
first. -/
inductive FirstObjection (c : Config) (a : Arguments) : Objection → Prop where
  /-- The configuration gives a format that there is not. -/
  | format {v : Toml.Value} : outputValue? c "format" = some v → ¬ NamesFormat v → FirstObjection c a (.format v)
  /-- The format is in order, and so are the items before this one. -/
  | item {before after : List Toml.Value} {v : Toml.Value} : (∀ u ∈ outputValue? c "format", NamesFormat u) →
      skipItems c = before ++ v :: after → (∀ u ∈ before, NamesType u.bare.toOption) →
      ¬ NamesType v.bare.toOption → FirstObjection c a (.item v)
  /-- The configuration is in order, and so are the words before this one. -/
  | word {before after : List (Option String)} {name : Option String} :
      (∀ u ∈ outputValue? c "format", NamesFormat u) → (∀ u ∈ skipItems c, NamesType u.bare.toOption) →
      a.skip = before ++ name :: after → (∀ m ∈ before, NamesType m) → ¬ NamesType name →
      FirstObjection c a (.word name)

/-- `InOrder c a`: everything in a configuration and arguments names what it should. -/
structure InOrder (c : Config) (a : Arguments) : Prop where
  /-- The format of the configuration, if it gives one. -/
  format : ∀ v ∈ outputValue? c "format", NamesFormat v
  /-- All that is mentioned as a type to leave out. -/
  mentions : ∀ m ∈ mentions c a, NamesType m

theorem inOrder_iff {c : Config} {a : Arguments} : InOrder c a ↔
    (∀ v ∈ outputValue? c "format", NamesFormat v) ∧ (∀ v ∈ skipItems c, NamesType v.bare.toOption) ∧
      ∀ name ∈ a.skip, NamesType name := by
  rw [← List.forall_mem_map, ← List.forall_mem_append]
  exact ⟨fun h => ⟨h.format, h.mentions⟩, fun h => ⟨h.1, h.2⟩⟩

section

variable {α : Type} {check : α → Except OptionFailure TokenType} {name : α → Option String}
  {objection : α → Objection} {x : α} {xs : List α}

/-- `Checks check name objection`: the check of anything gives the type that its name is the name of, or
fails for the objection to it if there is none. -/
def Checks (check : α → Except OptionFailure TokenType) (name : α → Option String) (objection : α → Objection) :
    Prop :=
  ∀ x, (∃ type : TokenType, name x = some type.name ∧ check x = .ok type) ∨
    ¬ NamesType (name x) ∧ check x = .error (objection x).failure

theorem mapM_cons_of_error {e : OptionFailure} (h : check x = .error e) : (x :: xs).mapM check = .error e := by
  rw [List.mapM_cons, h]
  rfl

theorem mapM_cons_of_ok {type : TokenType} (h : check x = .ok type) :
    (x :: xs).mapM check = (xs.mapM check).map (type :: ·) := by
  rw [List.mapM_cons, h]
  cases xs.mapM check <;> rfl

/-- Of several things, the first one without a type is what fails, whatever follows it. -/
theorem Checks.mapM_eq_error (h : Checks check name objection) {before after : List α}
    (hbefore : ∀ y ∈ before, NamesType (name y)) (hx : ¬ NamesType (name x)) :
    (before ++ x :: after).mapM check = .error (objection x).failure := by
  induction before with
  | nil =>
    obtain ⟨type, hname, -⟩ | ⟨-, herror⟩ := h x
    · exact absurd ⟨type, hname⟩ hx
    · exact mapM_cons_of_error herror
  | cons y before ih =>
    obtain ⟨hy, hbefore⟩ := List.forall_mem_cons.1 hbefore
    obtain ⟨type, -, hok⟩ | ⟨hbad, -⟩ := h y
    · rw [List.cons_append, mapM_cons_of_ok hok, ih hbefore]
      rfl
    · exact absurd hy hbad

/-- **Either all things have types**, which are then those of their names, or there is a first one without. -/
theorem Checks.mapM_cases (h : Checks check name objection) (xs : List α) :
    (∃ types, xs.mapM check = .ok types ∧ (∀ x ∈ xs, NamesType (name x)) ∧
      ∀ type, type ∈ types ↔ some type.name ∈ xs.map name) ∨
    ∃ before x after, xs = before ++ x :: after ∧ (∀ y ∈ before, NamesType (name y)) ∧ ¬ NamesType (name x) := by
  induction xs with
  | nil => exact .inl ⟨[], rfl, List.forall_mem_nil _, by simp⟩
  | cons x xs ih =>
    obtain ⟨first, hname, hok⟩ | ⟨hbad, -⟩ := h x
    · obtain ⟨types, htypes, hall, hmem⟩ | ⟨before, y, after, rfl, hbefore, hy⟩ := ih
      · refine .inl ⟨first :: types, ?_, List.forall_mem_cons.2 ⟨⟨first, hname⟩, hall⟩, ?_⟩
        · rw [mapM_cons_of_ok hok, htypes]
          rfl
        · intro type
          rw [List.map_cons, List.mem_cons, List.mem_cons, hmem, hname, Option.some.injEq, TokenType.name_inj]
      · exact .inr ⟨x :: before, y, after, rfl, List.forall_mem_cons.2 ⟨⟨first, hname⟩, hbefore⟩, hy⟩
    · exact .inr ⟨[], x, xs, rfl, List.forall_mem_nil _, hbad⟩

end

/-- The type of token that a word names. -/
def wordType : Option String → Except OptionFailure TokenType
  | none => .error (.rejected (.unknownType none))
  | some name => (parseType name).mapError .rejected

/-- The type of token that a value names. -/
def valueType (v : Toml.Value) : Except OptionFailure TokenType := do
  let name ← shown v.bare
  wordType (some name)

theorem parseTypes_eq_mapM (names : List (Option String)) : parseTypes names = names.mapM wordType := by
  induction names with
  | nil => rfl
  | cons name names ih =>
    rw [List.mapM_cons, ← ih]
    cases name <;> rfl

theorem valueTypes_eq_mapM (items : List Toml.Value) : valueTypes items = items.mapM valueType := by
  induction items with
  | nil => rfl
  | cons v items ih =>
    rw [List.mapM_cons, ← ih, valueTypes, valueType, bind_assoc]
    rfl

theorem checks_wordType : Checks wordType (fun m => m) .word := by
  intro m
  cases m with
  | none => exact .inr ⟨by simp [NamesType], rfl⟩
  | some name =>
    rw [wordType, parseType]
    cases hname : TokenType.ofName? name with
    | some type => exact .inl ⟨type, congrArg some (ofName?_eq_some_iff.1 hname), rfl⟩
    | none =>
      refine .inr ⟨?_, rfl⟩
      rintro ⟨type, heq⟩
      rw [Option.some.inj heq, TokenType.ofName?_name] at hname
      cases hname

theorem checks_valueType : Checks valueType (fun v => v.bare.toOption) .item := by
  intro v
  dsimp only
  rw [valueType, Objection.failure]
  cases v.bare with
  | error u => exact .inr ⟨by simp [NamesType, Except.toOption], rfl⟩
  | ok name => exact checks_wordType (some name)

/-! ### Merging -/

theorem configSkip_eq_mapM (c : Config) : configSkip (outputTable c) = (skipItems c).mapM valueType := by
  rw [configSkip, skipItems, outputValue?_eq]
  cases (outputTable c).lookup "skip" with
  | none => rfl
  | some v =>
    cases v with
    | array items => exact valueTypes_eq_mapM items
    | _ => rfl

/-- The format of a configuration is in order, if it gives one, or there is an objection to it. -/
theorem configFormat_cases (c : Config) :
    (∃ f : Option Format, configFormat (outputTable c) = .ok f ∧
      outputValue? c "format" = f.map fun f => .string f.name) ∨
    ∃ v, outputValue? c "format" = some v ∧ ¬ NamesFormat v ∧
      configFormat (outputTable c) = .error (Objection.format v).failure := by
  rw [configFormat, outputValue?_eq]
  cases (outputTable c).lookup "format" with
  | none => exact .inl ⟨none, rfl, rfl⟩
  | some v =>
    dsimp only
    cases hv : configFormat.formatOf? v with
    | some f =>
      cases v with
      | string name =>
        have hname := List.find?_some hv
        exact .inl ⟨some f, rfl, by rw [← beq_iff_eq.1 hname]; rfl⟩
      | _ => cases hv
    | none =>
      refine .inr ⟨v, rfl, ?_, ?_⟩
      · rintro (rfl | rfl)
        all_goals cases hv
      · rw [Objection.failure]
        cases v.literal <;> rfl

variable {c : Config} {a : Arguments}

/-- A format that is in order passes. -/
theorem configFormat_of_namesFormat (h : ∀ v ∈ outputValue? c "format", NamesFormat v) :
    ∃ f, configFormat (outputTable c) = .ok f := by
  obtain ⟨f, hf, -⟩ | ⟨v, hv, hbad, -⟩ := configFormat_cases c
  · exact ⟨f, hf⟩
  · exact absurd (h v hv) hbad

/-- **Merging fails for the first objection.** -/
theorem FirstObjection.merge_eq {x : Objection} (h : FirstObjection c a x) : merge c a = .error x.failure := by
  cases h with
  | @format v hv hbad =>
    obtain ⟨f, -, hformat⟩ | ⟨u, hu, -, herror⟩ := configFormat_cases c
    · rw [hv] at hformat
      obtain ⟨f, -, rfl⟩ := Option.map_eq_some_iff.1 hformat.symm
      exact absurd (namesFormat_name f) hbad
    · obtain rfl : u = v := Option.some.inj (hu.symm.trans hv)
      rw [merge, herror]
      rfl
  | @item before after v hformat hitems hbefore hbad =>
    obtain ⟨f, hf⟩ := configFormat_of_namesFormat hformat
    rw [merge, hf, configSkip_eq_mapM, hitems, checks_valueType.mapM_eq_error hbefore hbad]
    rfl
  | @word before after name hformat hitems hwords hbefore hbad =>
    obtain ⟨f, hf⟩ := configFormat_of_namesFormat hformat
    obtain ⟨types, htypes, -⟩ | ⟨_, v, _, heq, -, hv⟩ := checks_valueType.mapM_cases (skipItems c)
    · rw [merge, hf, configSkip_eq_mapM, htypes, parseTypes_eq_mapM, hwords,
        checks_wordType.mapM_eq_error hbefore hbad]
      rfl
    · exact absurd (hitems v (by simp [heq])) hv

/-- `Merged c a o`: the options `o` are what the configuration and the arguments say. -/
structure Merged (c : Config) (a : Arguments) (o : Options) : Prop where
  /-- The input is the one named. -/
  input : o.input = Path.ofString a.input
  /-- So is the output, unless its name is empty. -/
  output : o.output = (a.output.filter (· != "")).map Path.ofString
  /-- The arguments decide on the format, if they ask for one. -/
  format_of_arguments : ∀ f, a.format = some f → o.format = f
  /-- If not, the configuration does. -/
  format_of_config : a.format = none →
    ∀ f : Format, outputValue? c "format" = some (.string f.name) → o.format = .named f
  /-- If neither does, it is text. -/
  format_of_neither : a.format = none → outputValue? c "format" = none → o.format = .named .text
  /-- The types to leave out are those mentioned in either place. -/
  skip : ∀ type, type ∈ o.skip ↔ some type.name ∈ mentions c a
  /-- Tokens are counted if the arguments ask for it. -/
  debug : o.debug = a.debug

/-- Either there is something to object to, or everything is in order and merging gives options. -/
theorem merge_cases (c : Config) (a : Arguments) :
    (∃ x, FirstObjection c a x) ∨ InOrder c a ∧ ∃ o, merge c a = .ok o ∧ Merged c a o := by
  obtain ⟨f, hf, hvalue⟩ | ⟨v, hv, hbad, -⟩ := configFormat_cases c
  · have hformat : ∀ v ∈ outputValue? c "format", NamesFormat v := by
      intro v hv
      obtain ⟨f, -, rfl⟩ := Option.map_eq_some_iff.1 (hvalue.symm.trans hv)
      exact namesFormat_name f
    obtain ⟨types, htypes, hitems, hmem⟩ | ⟨before, v, after, heq, hbefore, hbad⟩ :=
      checks_valueType.mapM_cases (skipItems c)
    · obtain ⟨types', htypes', hwords, hmem'⟩ | ⟨before, name, after, heq, hbefore, hbad⟩ :=
        checks_wordType.mapM_cases a.skip
      · refine .inr ⟨inOrder_iff.2 ⟨hformat, hitems, hwords⟩, ?_⟩
        refine ⟨_, by rw [merge, hf, configSkip_eq_mapM, htypes, parseTypes_eq_mapM, htypes']; rfl, ?_⟩
        refine ⟨rfl, rfl, ?_, ?_, ?_, ?_, rfl⟩
        · intro g hg
          simp [hg]
        · intro hg g hv
          rw [hvalue] at hv
          obtain ⟨f, rfl, hname⟩ := Option.map_eq_some_iff.1 hv
          simp [hg, eq_of_formatName_eq (Toml.Value.string.inj hname)]
        · intro hg hv
          rw [hvalue, Option.map_eq_none_iff] at hv
          simp [hg, hv]
        · intro type
          rw [List.mem_append, mentions, List.mem_append, hmem, hmem', List.map_id']
      · exact .inl ⟨_, .word hformat hitems heq hbefore hbad⟩
    · exact .inl ⟨_, .item hformat heq hbefore hbad⟩
  · exact .inl ⟨_, .format hv hbad⟩

theorem merge_eq_ok {o : Options} (h : merge c a = .ok o) : InOrder c a ∧ Merged c a o := by
  obtain ⟨x, hx⟩ | ⟨horder, o', ho', hmerged⟩ := merge_cases c a
  · rw [hx.merge_eq] at h
    cases h
  · obtain rfl : o' = o := Except.ok.inj (ho'.symm.trans h)
    exact ⟨horder, hmerged⟩

theorem merge_eq_error_iff {f : OptionFailure} : merge c a = .error f ↔ ∃ x, FirstObjection c a x ∧ f = x.failure := by
  constructor
  · intro hf
    obtain ⟨x, hx⟩ | ⟨-, o, ho, -⟩ := merge_cases c a
    · exact ⟨x, hx, Except.error.inj (hf.symm.trans hx.merge_eq)⟩
    · rw [hf] at ho
      cases ho
  · rintro ⟨x, hx, rfl⟩
    exact hx.merge_eq

/-- `o.Alike o'`: two options that differ at most in the order and repetition of the types to leave out. -/
structure Options.Alike (o o' : Options) : Prop where
  /-- All the rest is the same. -/
  others : o' = { o with skip := o'.skip }
  /-- The same types are left out. -/
  skip : ∀ type, type ∈ o'.skip ↔ type ∈ o.skip
  /-- So the same names are shown. -/
  skipNames : o'.skipNames = o.skipNames

/-- A format that there is not is an error also where the arguments override it, and comes before all others. -/
example :
    merge [("output", .table [("format", .string "yaml"), ("skip", .array [.string "tabs"])])]
      ⟨"a.scss", none, some (.named .json), [some "nope"], none, false⟩ =
        .error (.rejected (.badFormat "'yaml'")) := by
  rfl

end Stylesheet.CommandLine
