import TapeMachine.Text.Blank
import TapeMachine.Text.Emoji.Names
import TapeMachine.Text.Lower

/-!
# Emoji by name

A name between two colons stands for an emoji, as in `:turtle:`.  The name may
end in a skin tone if the emoji shows people, in a region after `flag_for_`,
and after it `-emoji` or `-text` may ask for one of the two ways in which a
character is shown.  `replaceNames` puts emoji in the place of their names and
leaves names that it does not know.
-/

namespace TapeMachine.Text.Emoji

/-- The code of a name in rows of names and codes. -/
def code? (rows : List String) (name : List Char) : Option (List Char) :=
  rows.findSome? fun row => lookUp (words row.toList)
where
  /-- Look through names and codes in turn. -/
  lookUp : List (List Char) → Option (List Char)
    | key :: code :: rest => if key = name then some code else lookUp rest
    | _ => none

/-- The characters of a code: code points in hexadecimal digits with `-` between them. -/
def charsOfCode (code : List Char) : List Char :=
  (code.splitOn '-').map fun digits =>
    Char.ofNat (digits.foldl (fun n c => 16 * n + (hexValue? c).getD 0) 0)

/-- The characters of a flag: the letters of its region as indicators. -/
def charsOfRegion (code : List Char) : List Char :=
  code.map fun c => Char.ofNat (0x1f1e6 + (c.toNat - 'A'.toNat))

/-- The skin tones, by what their names end in. -/
def tones : List (String × Char) :=
  [("_light_skin_tone", Char.ofNat 0x1f3fb), ("_medium-light_skin_tone", Char.ofNat 0x1f3fc),
    ("_medium_skin_tone", Char.ofNat 0x1f3fd), ("_medium-dark_skin_tone", Char.ofNat 0x1f3fe),
    ("_dark_skin_tone", Char.ofNat 0x1f3ff)]

/-- The selectors of the two ways in which a character is shown, by what asks for them. -/
def selectors : List (String × Char) :=
  [("-emoji", Char.ofNat 0xfe0f), ("-text", Char.ofNat 0xfe0e)]

/-- An emoji in a skin tone, which stands after its first character instead of a selector. -/
def withTone (tone : Char) : List Char → List Char
  | [] => []
  | c :: rest => c :: tone :: if rest.head? = some (Char.ofNat 0xfe0f) then rest.drop 1 else rest

/-- The text before an ending, if it has that ending. -/
def before? (ending : String) (s : List Char) : Option (List Char) :=
  let e := ending.toList
  if e.isSuffixOf s then some (s.take (s.length - e.length)) else none

/-- The emoji of a name with a skin tone. -/
def toned? (name : List Char) : Option (List Char) :=
  tones.findSome? fun t => do
    let base ← before? t.1 name
    let code ← code? tonedNames base
    return withTone t.2 (charsOfCode code)

/-- The flag of a region, named by itself or after `flag_for_`. -/
def flag? (name : List Char) : Option (List Char) :=
  let start := "flag_for_".toList
  let region := if start.isPrefixOf name then name.drop start.length else name
  (code? regionNames region).map charsOfRegion

/-- The emoji of a name. -/
def find? (name : List Char) : Option (List Char) :=
  ((code? plainNames name <|> code? tonedNames name).map charsOfCode) <|> toned? name <|> flag? name

/-- The text up to the next colon and what comes after it, if no blank comes before. -/
def upToColon? : List CodePoint → Option (List CodePoint × List CodePoint)
  | [] => none
  | p :: rest =>
    if p = .char ':' then some ([], rest)
    else if p.isChar isBlank then none
    else (upToColon? rest).map fun r => (p :: r.1, r.2)

/-- What a text between two colons stands for. -/
def replacement? (s : List Char) : Option (List Char) :=
  let (name, selector) := (selectors.findSome? fun t =>
    (before? t.1 s).map fun name => (name, [t.2])).getD (s, [])
  (find? (lower name)).map (· ++ selector)

/-- The emoji of what stands between two colons, or the text with its colons if there is none. -/
def orNamed (name : List CodePoint) : List CodePoint :=
  match (RawText.chars? name).bind replacement? with
  | some emoji => emoji.map .char
  | none => .char ':' :: (name ++ [.char ':'])

theorem length_upToColon? {s : List CodePoint} {r : List CodePoint × List CodePoint}
    (h : upToColon? s = some r) : r.2.length < s.length := by
  induction s generalizing r with
  | nil => simp [upToColon?] at h
  | cons c rest ih =>
    rw [upToColon?] at h
    split at h
    · cases h
      exact Nat.lt_succ_self _
    · split at h
      · simp at h
      · obtain ⟨q, hq, rfl⟩ := Option.map_eq_some_iff.1 h
        have hlt : q.2.length < rest.length := ih hq
        exact Nat.lt_succ_of_lt hlt

/-- The text with emoji in the place of their names. -/
def replaceNames (s : List CodePoint) : List CodePoint :=
  match s with
  | [] => []
  | p :: rest =>
    if p = .char ':' then
      match hr : upToColon? rest with
      | some (name, after) =>
        have : after.length < rest.length := length_upToColon? hr
        orNamed name ++ replaceNames after
      | none => p :: replaceNames rest
    else p :: replaceNames rest
termination_by s.length
decreasing_by
  · exact Nat.lt_succ_of_lt this
  · exact Nat.lt_succ_self _
  · exact Nat.lt_succ_self _

end TapeMachine.Text.Emoji
