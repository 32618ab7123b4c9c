import TapeMachine.Proofs.CommandLine.Settings

/-!
# Valid settings

`Settings.Valid` says what settings must be: they have the names of the schema and no others, each
with a value that suits it (`Settings.Suits`), and the numbers and the level of the log are in their
ranges.  `Settings.FirstDefect fields f` says that `f` is the first thing that is wrong: the names
that are not known come first, all of them in order, then the first name of the schema whose value
is missing or of a wrong kind, and only then, when all kinds are right, the ranges one after
another.

Named values pass the check if and only if they are valid (`check_passes_iff`), and otherwise the
check blames their first defect (`firstDefect_of_check`).
-/

namespace TapeMachine

open Text

/-! ### The order of texts -/

namespace Text.RawText

/-- A text comes before another: by the numbers of their code points. -/
def Before (s t : RawText) : Prop :=
  List.Lex (· < ·) (s.points.map CodePoint.number) (t.points.map CodePoint.number)

theorem le_iff (s t : RawText) : RawText.le s t ↔ ¬ t.Before s := by
  have hblt : (fun m n : Nat => Nat.blt m n = true) = (· < ·) := by
    funext m n
    rw [Nat.blt_eq]
  rw [le, Bool.not_eq_true', ← Bool.not_eq_true, List.lex_eq_true_iff_lex, hblt, Before]

theorem le_trans (s t u : RawText) (hst : RawText.le s t) (htu : RawText.le t u) :
    RawText.le s u := by
  rw [le_iff] at *
  exact @List.le_trans Nat _ _ _ _ _ _ _ hst htu

theorem le_total (s t : RawText) : RawText.le s t || RawText.le t s := by
  rw [Bool.or_eq_true, le_iff, le_iff]
  exact @List.le_total Nat _ _ _ _

end Text.RawText

namespace Settings

/-! ### What settings must be -/

/-- All names are names of the schema. -/
def AllKnown (fields : Fields) : Prop := ∀ name ∈ fields.map (·.1), name ∈ names

/-- Every name of some that have kinds has a value, of one of its kinds. -/
def OfKinds (fields : Fields) (entries : List (String × List Value.Kind)) : Prop :=
  ∀ entry ∈ entries, ∃ v, fields.get? entry.1 = some v ∧ v.kind ∈ entry.2

/-- A limit of the steps, if there is one, is at least one step. -/
def EnoughSteps (fields : Fields) : Prop := ∀ n, fields.get? "max_steps" = some (.int n) → 1 ≤ n

/-- The boxes of a diagram have a side of at least one pixel. -/
def CellsVisible (fields : Fields) : Prop := ∀ n, fields.get? "cell_size" = some (.int n) → 1 ≤ n

/-- A text is the name of a level of the log, in small or capital letters. -/
def IsLevel (name : RawText) : Prop :=
  ∃ (s : String) (l : Log.Level), name = .sound s ∧
    s.toList.map Log.Level.capital = l.name.toList

/-- A name may have a value: only the trace is a truth value, and only a limit and a diagram may be
missing. -/
def Suits (name : RawText) : Value → Prop
  | .null => name = "max_steps" ∨ name = "diagram"
  | .bool _ => name = "trace"
  | .int _ => name = "max_steps" ∨ name = "cell_size"
  | .text _ => name = "log_level" ∨ name = "diagram" ∨ name = "caption"
  | _ => False

/-- **Settings are valid**: every name of the schema has a value, and no other name has one. -/
structure Valid (fields : Fields) : Prop where
  complete : ∀ name ∈ names, fields.get? name ≠ none
  suits : ∀ name v, fields.get? name = some v → Suits name v
  steps : EnoughSteps fields
  cells : CellsVisible fields
  level : ∀ name, fields.get? "log_level" = some (.text name) → IsLevel name

/-- **The first thing that is wrong with settings.** -/
inductive FirstDefect (fields : Fields) : Fault → Prop
  | unknownKeys {unknown : List RawText} (hne : unknown ≠ [])
      (hall : ∀ name, name ∈ unknown ↔ name ∈ fields.map (·.1) ∧ name ∉ names)
      (honce : unknown.Nodup) (hsorted : unknown.Pairwise fun s t => ¬ t.Before s) :
      FirstDefect fields (.unknownKeys unknown)
  | missingKey {before after : List (String × List Value.Kind)} {name : String}
      {kinds : List Value.Kind} (hknown : AllKnown fields)
      (hschema : schema = before ++ (name, kinds) :: after) (hbefore : OfKinds fields before)
      (hmissing : fields.get? name = none) : FirstDefect fields (.missingKey name)
  | wrongKind {before after : List (String × List Value.Kind)} {name : String}
      {kinds : List Value.Kind} {v : Value} (hknown : AllKnown fields)
      (hschema : schema = before ++ (name, kinds) :: after) (hbefore : OfKinds fields before)
      (hv : fields.get? name = some v) (hkind : v.kind ∉ kinds) :
      FirstDefect fields (.wrongKind name kinds v.kind)
  | tooFewSteps {n : Int} (hknown : AllKnown fields) (hkinds : OfKinds fields schema)
      (hn : fields.get? "max_steps" = some (.int n)) (hlt : n < 1) :
      FirstDefect fields .tooFewSteps
  | cellTooSmall {n : Int} (hknown : AllKnown fields) (hkinds : OfKinds fields schema)
      (hsteps : EnoughSteps fields) (hn : fields.get? "cell_size" = some (.int n)) (hlt : n < 1) :
      FirstDefect fields .cellTooSmall
  | unknownLevel {name : RawText} (hknown : AllKnown fields) (hkinds : OfKinds fields schema)
      (hsteps : EnoughSteps fields) (hcells : CellsVisible fields)
      (hname : fields.get? "log_level" = some (.text name)) (hno : ¬ IsLevel name) :
      FirstDefect fields (.unknownLevel name)

variable {fields : Fields} {entries : List (String × List Value.Kind)} {f : Fault} {name : RawText}

/-! ### The names -/

theorem mem_unknownKeys_iff :
    name ∈ unknownKeys fields ↔ name ∈ fields.map (·.1) ∧ name ∉ names := by
  rw [unknownKeys, List.mem_mergeSort, List.mem_filter]
  simp

theorem unknownKeys_eq_nil_iff : unknownKeys fields = [] ↔ AllKnown fields := by
  constructor
  · intro h name hname
    apply Decidable.byContradiction
    intro hno
    have hmem : name ∈ unknownKeys fields := mem_unknownKeys_iff.2 ⟨hname, hno⟩
    rw [h] at hmem
    cases hmem
  · intro h
    apply unknownKeys_eq_nil
    intro f hf
    exact h f.1 (List.mem_map_of_mem hf)

theorem not_allKnown {unknown : List RawText} (hne : unknown ≠ [])
    (hall : ∀ name, name ∈ unknown ↔ name ∈ fields.map (·.1) ∧ name ∉ names) :
    ¬ AllKnown fields := by
  intro hknown
  obtain ⟨name, hname⟩ := List.exists_mem_of_ne_nil unknown hne
  obtain ⟨hmem, hno⟩ := (hall name).1 hname
  exact hno (hknown name hmem)

theorem firstDefect_of_unknownKeys (hnodup : (fields.map (·.1)).Nodup)
    (h : ¬ AllKnown fields) : FirstDefect fields (.unknownKeys (unknownKeys fields)) := by
  refine .unknownKeys (mt unknownKeys_eq_nil_iff.1 h) (fun _ => mem_unknownKeys_iff) ?_ ?_
  · exact (List.mergeSort_perm _ _).nodup_iff.2 (hnodup.filter _)
  · refine (List.pairwise_mergeSort RawText.le_trans RawText.le_total _).imp ?_
    intro s t hst
    exact (RawText.le_iff s t).1 hst

/-! ### The kinds -/

theorem ofKinds_cons {entry : String × List Value.Kind} {v : Value}
    (hv : fields.get? entry.1 = some v) :
    OfKinds fields (entry :: entries) ↔ v.kind ∈ entry.2 ∧ OfKinds fields entries := by
  simp [OfKinds, hv]

theorem not_ofKinds {before after : List (String × List Value.Kind)} {name : String}
    {kinds : List Value.Kind} {v : Value} (hentries : entries = before ++ (name, kinds) :: after)
    (hv : fields.get? name = some v) (hkind : v.kind ∉ kinds) : ¬ OfKinds fields entries := by
  intro hkinds
  obtain ⟨v', hv', hkind'⟩ := hkinds _ (hentries ▸ List.mem_append_cons_self)
  obtain rfl := Option.some.inj (hv.symm.trans hv')
  exact hkind hkind'

theorem checkKinds_eq_ok_iff : checkKinds fields entries = .ok () ↔ OfKinds fields entries := by
  induction entries with
  | nil => exact ⟨fun _ => nofun, fun _ => rfl⟩
  | cons entry rest ih =>
    obtain ⟨name, kinds⟩ := entry
    rw [checkKinds]
    cases hv : fields.get? name with
    | none =>
      refine ⟨nofun, fun h => ?_⟩
      obtain ⟨v, hv', -⟩ := h _ (List.mem_cons_self ..)
      rw [hv] at hv'
      cases hv'
    | some v =>
      rw [ofKinds_cons hv, ← ih]
      by_cases hkind : v.kind ∈ kinds <;> simp [hkind]

/-- What `checkKinds` blames is the first value that is missing or of a wrong kind. -/
theorem exists_of_checkKinds (h : checkKinds fields entries = .error f) :
    ∃ before, ∃ name : String, ∃ kinds after, entries = before ++ (name, kinds) :: after ∧
      OfKinds fields before ∧ (fields.get? name = none ∧ f = .missingKey name ∨
        ∃ v, fields.get? name = some v ∧ v.kind ∉ kinds ∧ f = .wrongKind name kinds v.kind) := by
  induction entries with
  | nil => cases h
  | cons entry rest ih =>
    obtain ⟨name, kinds⟩ := entry
    rw [checkKinds] at h
    cases hv : fields.get? name with
    | none =>
      rw [hv] at h
      exact ⟨[], name, kinds, rest, rfl, nofun, .inl ⟨hv, (Except.error.inj h).symm⟩⟩
    | some v =>
      rw [hv] at h
      dsimp only at h
      split_ifs at h with hkind
      · obtain ⟨before, name', kinds', after, rfl, hbefore, hf⟩ := ih h
        have hfirst : OfKinds fields ((name, kinds) :: before) :=
          (ofKinds_cons hv).2 ⟨List.contains_iff_mem.1 hkind, hbefore⟩
        exact ⟨(name, kinds) :: before, name', kinds', after, rfl, hfirst, hf⟩
      · exact ⟨[], name, kinds, rest, rfl, nofun, .inr ⟨v, hv, by simpa using hkind,
          (Except.error.inj h).symm⟩⟩

/-- The values of settings whose kinds are right. -/
theorem OfKinds.values (h : OfKinds fields schema) :
    (fields.get? "max_steps" = some .null ∨ ∃ n, fields.get? "max_steps" = some (.int n)) ∧
      (∃ n, fields.get? "cell_size" = some (.int n)) ∧
      ∃ name, fields.get? "log_level" = some (.text name) := by
  obtain ⟨steps, hsteps, hstepsKind⟩ := h ("max_steps", [.int, .null]) (by decide)
  obtain ⟨cell, hcell, hcellKind⟩ := h ("cell_size", [.int]) (by decide)
  obtain ⟨level, hlevel, hlevelKind⟩ := h ("log_level", [.text]) (by decide)
  refine ⟨?_, ?_, ?_⟩
  · cases steps <;> simp_all [Value.kind]
  · cases cell <;> simp_all [Value.kind]
  · cases level <;> simp_all [Value.kind]

theorem suits_iff {v : Value} : ∀ entry ∈ schema, Suits entry.1 v ↔ v.kind ∈ entry.2 := by
  cases v <;> simp only [Suits, Value.kind] <;> decide

theorem Suits.mem_names {v : Value} (h : Suits name v) : name ∈ names := by
  cases v with
  | null => rcases h with rfl | rfl <;> decide
  | bool => obtain rfl := h; decide
  | int => rcases h with rfl | rfl <;> decide
  | text => rcases h with rfl | rfl | rfl <;> decide
  | double => cases h
  | list => cases h
  | object => cases h

theorem Valid.known (h : Valid fields) : AllKnown fields := by
  intro name hname
  obtain ⟨v, hv⟩ := Option.ne_none_iff_exists'.1 (Fields.get?_ne_none_iff.2 hname)
  exact (h.suits name v hv).mem_names

theorem Valid.kinds (h : Valid fields) : OfKinds fields schema := by
  intro entry hentry
  obtain ⟨v, hv⟩ := Option.ne_none_iff_exists'.1 (h.complete entry.1 (List.mem_map_of_mem hentry))
  exact ⟨v, hv, (suits_iff entry hentry).1 (h.suits _ v hv)⟩

theorem suits_of_ofKinds (hknown : AllKnown fields) (hkinds : OfKinds fields schema) {v : Value}
    (hv : fields.get? name = some v) : Suits name v := by
  have hmem : name ∈ names := hknown name (Fields.get?_ne_none_iff.1 (by rw [hv]; nofun))
  obtain ⟨entry, hentry, rfl⟩ := List.mem_map.1 hmem
  obtain ⟨v', hv', hkind⟩ := hkinds entry hentry
  obtain rfl : v = v' := Option.some.inj (hv.symm.trans hv')
  exact (suits_iff entry hentry).2 hkind

theorem complete_of_ofKinds (hkinds : OfKinds fields schema) :
    ∀ name ∈ names, fields.get? name ≠ none := by
  intro name hname
  obtain ⟨entry, hentry, rfl⟩ := List.mem_map.1 hname
  obtain ⟨v, hv, -⟩ := hkinds entry hentry
  rw [hv]
  nofun

/-! ### The ranges -/

theorem isLevel_iff :
    IsLevel name ↔ ∃ l, name.string?.bind Log.Level.ofName? = some l := by
  constructor
  · rintro ⟨s, l, rfl, hl⟩
    rw [← Option.isSome_iff_exists]
    refine List.find?_isSome.2 ⟨l, ?_, by simpa using hl.symm⟩
    cases l <;> decide
  · rintro ⟨l, hl⟩
    obtain ⟨s, hs, hl⟩ := Option.bind_eq_some_iff.1 hl
    cases name with
    | broken ps => cases hs
    | sound s' =>
      obtain rfl := Option.some.inj hs
      have hname := List.find?_some hl
      exact ⟨s', l, rfl, (of_decide_eq_true hname).symm⟩

theorem checkRanges_of_few {n : Int} (hn : fields.get? "max_steps" = some (.int n)) (hlt : n < 1) :
    checkRanges fields = .error .tooFewSteps := by
  simp [checkRanges, hn, hlt]

/-- A limit that is not too small does not count. -/
theorem exists_checkRanges_eq (hkinds : OfKinds fields schema) (henough : EnoughSteps fields)
    {side : Int} {name : RawText} (hside : fields.get? "cell_size" = some (.int side))
    (hname : fields.get? "log_level" = some (.text name)) : ∃ s : Log.Level → Settings,
    checkRanges fields = if side < 1 then .error .cellTooSmall
      else match name.string?.bind Log.Level.ofName? with
        | none => .error (.unknownLevel name)
        | some l => .ok (s l) := by
  obtain ⟨hnull | ⟨n, hn⟩, -, -⟩ := hkinds.values
  · simp only [checkRanges, checkRanges.text, hnull, hside, hname, Option.any_none]
    exact ⟨_, rfl⟩
  · have hle : ¬ n < 1 := by
      have hge := henough n hn
      omega
    simp only [checkRanges, checkRanges.text, hn, hside, hname, Option.any_some, hle]
    exact ⟨_, rfl⟩

/-- What comes of the ranges when the names and all kinds are right. -/
theorem checkRanges_cases (hknown : AllKnown fields) (hkinds : OfKinds fields schema) :
    (Valid fields ∧ ∃ s, checkRanges fields = .ok s) ∨
      ∃ f, FirstDefect fields f ∧ checkRanges fields = .error f := by
  obtain ⟨-, ⟨side, hside⟩, name, hname⟩ := hkinds.values
  by_cases henough : EnoughSteps fields
  · obtain ⟨r, hr⟩ := exists_checkRanges_eq hkinds henough hside hname
    by_cases hlt : side < 1
    · rw [if_pos hlt] at hr
      exact .inr ⟨_, .cellTooSmall hknown hkinds henough hside hlt, hr⟩
    · rw [if_neg hlt] at hr
      have hcells : CellsVisible fields := by
        intro n hn
        obtain rfl : side = n := by simpa [hside] using hn
        omega
      cases hl : name.string?.bind Log.Level.ofName? with
      | none =>
        rw [hl] at hr
        have hno : ¬ IsLevel name := by simp [isLevel_iff, hl]
        exact .inr ⟨_, .unknownLevel hknown hkinds henough hcells hname hno, hr⟩
      | some l =>
        rw [hl] at hr
        have hlevel : ∀ name', fields.get? "log_level" = some (.text name') → IsLevel name' := by
          intro name' hname'
          obtain rfl : name = name' := by simpa [hname] using hname'
          exact isLevel_iff.2 ⟨l, hl⟩
        have hvalid : Valid fields :=
          ⟨complete_of_ofKinds hkinds, fun _ _ => suits_of_ofKinds hknown hkinds, henough, hcells,
            hlevel⟩
        exact .inl ⟨hvalid, _, hr⟩
  · obtain ⟨n, hn, hlt⟩ : ∃ n, fields.get? "max_steps" = some (.int n) ∧ n < 1 := by
      simpa [EnoughSteps] using henough
    exact .inr ⟨_, .tooFewSteps hknown hkinds hn hlt, checkRanges_of_few hn hlt⟩

/-! ### The check -/

theorem check_of_known (h : AllKnown fields) :
    check fields = checkKinds fields schema >>= fun _ => checkRanges fields := by
  rw [check, unknownKeys_eq_nil_iff.2 h]

theorem check_of_not_known (h : ¬ AllKnown fields) :
    check fields = .error (.unknownKeys (unknownKeys fields)) := by
  rw [check]
  split
  next hnil => exact absurd (unknownKeys_eq_nil_iff.1 hnil) h
  next => rfl

/-- **Settings pass the check, or their first defect is blamed.** -/
theorem check_cases (hnodup : (fields.map (·.1)).Nodup) :
    (Valid fields ∧ ∃ s, check fields = .ok s) ∨
      ∃ f, FirstDefect fields f ∧ check fields = .error f := by
  by_cases hknown : AllKnown fields
  · rw [check_of_known hknown]
    cases hcheck : checkKinds fields schema with
    | ok u => exact checkRanges_cases hknown (checkKinds_eq_ok_iff.1 hcheck)
    | error f =>
      obtain ⟨before, name, kinds, after, hschema, hbefore, ⟨hv, rfl⟩ | ⟨v, hv, hkind, rfl⟩⟩ :=
        exists_of_checkKinds hcheck
      · exact .inr ⟨_, .missingKey hknown hschema hbefore hv, rfl⟩
      · exact .inr ⟨_, .wrongKind hknown hschema hbefore hv hkind, rfl⟩
  · exact .inr ⟨_, firstDefect_of_unknownKeys hnodup hknown, check_of_not_known hknown⟩

theorem FirstDefect.not_valid (h : FirstDefect fields f) : ¬ Valid fields := by
  intro hvalid
  cases h with
  | unknownKeys hne hall => exact not_allKnown hne hall hvalid.known
  | missingKey _ hschema _ hmissing =>
    obtain ⟨v, hv, -⟩ := hvalid.kinds _ (hschema ▸ List.mem_append_cons_self)
    rw [hmissing] at hv
    cases hv
  | wrongKind _ hschema _ hv hkind => exact not_ofKinds hschema hv hkind hvalid.kinds
  | tooFewSteps _ _ hn hlt =>
    have hle := hvalid.steps _ hn
    omega
  | cellTooSmall _ _ _ hn hlt =>
    have hle := hvalid.cells _ hn
    omega
  | unknownLevel _ _ _ _ hname hno => exact hno (hvalid.level _ hname)

/-- **Settings pass the check if and only if they are valid.** -/
theorem check_passes_iff (hnodup : (fields.map (·.1)).Nodup) :
    (∃ s, check fields = .ok s) ↔ Valid fields := by
  rcases check_cases hnodup with ⟨hvalid, hpasses⟩ | ⟨f, hdefect, hf⟩
  · exact ⟨fun _ => hvalid, fun _ => hpasses⟩
  · refine ⟨?_, fun hvalid => absurd hvalid hdefect.not_valid⟩
    rintro ⟨s, hs⟩
    rw [hf] at hs
    cases hs

/-- **Settings that do not pass the check are blamed for their first defect.** -/
theorem firstDefect_of_check (hnodup : (fields.map (·.1)).Nodup) (h : check fields = .error f) :
    FirstDefect fields f := by
  rcases check_cases hnodup with ⟨-, s, hs⟩ | ⟨f', hdefect, hf'⟩
  · rw [hs] at h
    cases h
  · obtain rfl := Except.error.inj (hf'.symm.trans h)
    exact hdefect

/-- A truth value is blamed although a number is out of its range. -/
example : check [("max_steps", .int 0), ("trace", .bool true), ("log_level", .text "INFO"),
    ("diagram", .null), ("cell_size", .bool true), ("caption", .text "")] =
    .error (.wrongKind "cell_size" [.int] .bool) := by
  cbv

/-- Where no name of the schema is missing, none is blamed. -/
theorem FirstDefect.ne_missingKey (h : FirstDefect fields f)
    (hall : ∀ name ∈ names, fields.get? name ≠ none) (name : String) : f ≠ .missingKey name := by
  rintro rfl
  cases h with
  | missingKey _ hschema _ hmissing =>
    refine hall _ ?_ hmissing
    rw [names, hschema, List.map_append, List.map_cons]
    exact List.mem_append_cons_self

/-- **A kind is blamed if and only if all names are known and some value is of a wrong kind**, where
no name of the schema is missing. -/
theorem FirstDefect.isWrongKind_iff (h : FirstDefect fields f)
    (hall : ∀ name ∈ names, fields.get? name ≠ none) :
    f.isWrongKind ↔ AllKnown fields ∧ ¬ OfKinds fields schema := by
  have hmissing := h.ne_missingKey hall
  cases h with
  | unknownKeys hne hmem => exact ⟨nofun, fun h => absurd h.1 (not_allKnown hne hmem)⟩
  | missingKey => exact absurd rfl (hmissing _)
  | wrongKind hknown hschema _ hv hkind =>
    exact ⟨fun _ => ⟨hknown, not_ofKinds hschema hv hkind⟩, fun _ => rfl⟩
  | tooFewSteps _ hkinds => exact ⟨nofun, fun h => absurd hkinds h.2⟩
  | cellTooSmall _ hkinds => exact ⟨nofun, fun h => absurd hkinds h.2⟩
  | unknownLevel _ hkinds => exact ⟨nofun, fun h => absurd hkinds h.2⟩

end Settings

end TapeMachine
