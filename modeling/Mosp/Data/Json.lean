import Mathlib

/-!
# JSON texts

Strings are lists of UTF-16 code units.  A quoted string is well-formed text, since units that
are not part of a pair are escaped; the parser reads any JSON text and keeps numbers as they
are written.
-/

namespace Mosp.Data.Json

/-! ## Code units -/

abbrev CodeUnit := Fin 65536

abbrev Text := List CodeUnit

def isHigh (unit : CodeUnit) : Bool :=
  0xd800 ≤ unit.val && unit.val < 0xdc00

def isLow (unit : CodeUnit) : Bool :=
  0xdc00 ≤ unit.val && unit.val < 0xe000

/-- The units that encode a character. -/
def unitsOf (char : Char) : Text :=
  if char.toNat < 0x10000 then
    [Fin.ofNat 65536 char.toNat]
  else
    [Fin.ofNat 65536 (0xd800 + (char.toNat - 0x10000) / 0x400),
      Fin.ofNat 65536 (0xdc00 + (char.toNat - 0x10000) % 0x400)]

/-- A character or a unit that belongs to no pair. -/
inductive CodePoint where
  | scalar (char : Char)
  | lone (unit : CodeUnit)
deriving DecidableEq

def CodePoint.units : CodePoint → Text
  | .scalar char => unitsOf char
  | .lone unit => [unit]

def single (unit : CodeUnit) : CodePoint :=
  if isHigh unit || isLow unit then .lone unit else .scalar (Char.ofNat unit.val)

def pair (high low : CodeUnit) : Char :=
  Char.ofNat (0x10000 + (high.val - 0xd800) * 0x400 + (low.val - 0xdc00))

def codePoints : Text → List CodePoint
  | [] => []
  | [unit] => [single unit]
  | high :: low :: rest =>
      if isHigh high && isLow low then .scalar (pair high low) :: codePoints rest
      else single high :: codePoints (low :: rest)

theorem units_single (unit : CodeUnit) : (single unit).units = [unit] := by
  have bound := unit.isLt
  by_cases surrogate : isHigh unit || isLow unit
  · rw [single, if_pos surrogate]
    rfl
  · rw [single, if_neg surrogate]
    have valid : unit.val.isValidChar := by
      simp only [isHigh, isLow, Bool.or_eq_true, Bool.and_eq_true, decide_eq_true_eq] at surrogate
      unfold Nat.isValidChar
      omega
    have same : (Char.ofNat unit.val).toNat = unit.val := by
      rw [Char.toNat_ofNat, if_pos valid]
    rw [CodePoint.units, unitsOf, same, if_pos bound]
    simp

theorem units_pair {high low : CodeUnit} (paired : (isHigh high && isLow low) = true) :
    unitsOf (pair high low) = [high, low] := by
  simp only [isHigh, isLow, Bool.and_eq_true, decide_eq_true_eq] at paired
  have valid : (0x10000 + (high.val - 0xd800) * 0x400 + (low.val - 0xdc00)).isValidChar := by
    unfold Nat.isValidChar
    omega
  have same : (pair high low).toNat =
      0x10000 + (high.val - 0xd800) * 0x400 + (low.val - 0xdc00) := by
    rw [pair, Char.toNat_ofNat, if_pos valid]
  rw [unitsOf, same, if_neg (by omega)]
  simp only [List.cons.injEq, and_true, Fin.ext_iff, Fin.val_ofNat]
  omega

theorem codePoints_units (text : Text) : (codePoints text).flatMap CodePoint.units = text := by
  induction text using codePoints.induct with
  | case1 => rfl
  | case2 unit => simp [codePoints, units_single]
  | case3 high low rest paired ih =>
      rw [codePoints, if_pos paired, List.flatMap_cons, ih, CodePoint.units, units_pair paired]
      rfl
  | case4 high low rest alone ih =>
      rw [codePoints, if_neg alone, List.flatMap_cons, ih, units_single]
      rfl

/-! ## Strings -/

/-- `\u` with four digits -/
def unicodeEscape (unit : Nat) : List Char :=
  ['\\', 'u', Nat.digitChar (unit / 4096 % 16), Nat.digitChar (unit / 256 % 16),
    Nat.digitChar (unit / 16 % 16), Nat.digitChar (unit % 16)]

/-- The characters with an escape of their own, and what follows the backslash. -/
def shortEscapes : List (Char × Char) :=
  [('"', '"'), ('\\', '\\'), ('\x08', 'b'), ('\x0c', 'f'), ('\n', 'n'), ('\r', 'r'), ('\t', 't')]

def escape : CodePoint → List Char
  | .lone unit => unicodeEscape unit.val
  | .scalar char =>
      match shortEscapes.lookup char with
      | some letter => ['\\', letter]
      | none => if char.toNat < 0x20 then unicodeEscape char.toNat else [char]

def quote (text : Text) : List Char :=
  '"' :: (codePoints text).flatMap escape ++ ['"']

def hexDigit (char : Char) : Option Nat :=
  if char.isDigit then some (char.toNat - '0'.toNat)
  else if 'a' ≤ char ∧ char ≤ 'f' then some (char.toNat - 'a'.toNat + 10)
  else if 'A' ≤ char ∧ char ≤ 'F' then some (char.toNat - 'A'.toNat + 10)
  else none

/-- The characters that a letter after a backslash stands for. -/
def shortEscape (letter : Char) : Option Char :=
  ([('"', '"'), ('\\', '\\'), ('/', '/'), ('b', '\x08'), ('f', '\x0c'), ('n', '\n'),
    ('r', '\r'), ('t', '\t')] : List (Char × Char)).lookup letter

/-- The rest of a string after its opening quote. -/
def parseString : List Char → Option (Text × List Char)
  | [] => none
  | char :: rest =>
      if char = '"' then
        some ([], rest)
      else if char = '\\' then
        match rest with
        | [] => none
        | letter :: rest =>
            if letter = 'u' then
              match rest with
              | first :: second :: third :: fourth :: rest => do
                  let first ← hexDigit first
                  let second ← hexDigit second
                  let third ← hexDigit third
                  let fourth ← hexDigit fourth
                  let (text, rest) ← parseString rest
                  return (Fin.ofNat 65536 (first * 4096 + second * 256 + third * 16 + fourth) ::
                    text, rest)
              | _ => none
            else do
              let char ← shortEscape letter
              let (text, rest) ← parseString rest
              return (unitsOf char ++ text, rest)
      else if char.toNat < 0x20 then
        none
      else do
        let (text, rest) ← parseString rest
        return (unitsOf char ++ text, rest)

theorem parseString_end (rest : List Char) : parseString ('"' :: rest) = some ([], rest) := by
  rw [parseString.eq_def]
  rfl

theorem parseString_short {letter char : Char} (other : letter ≠ 'u')
    (known : shortEscape letter = some char) (rest : List Char) :
    parseString ('\\' :: letter :: rest) =
      (parseString rest).map fun parsed => (unitsOf char ++ parsed.1, parsed.2) := by
  rw [parseString.eq_def]
  simp only [Char.reduceEq, if_false, if_true, other, known, Option.bind_eq_bind,
    Option.bind_some]
  cases parseString rest <;> rfl

theorem parseString_plain {char : Char} (notQuote : char ≠ '"') (notBackslash : char ≠ '\\')
    (visible : ¬char.toNat < 0x20) (rest : List Char) :
    parseString (char :: rest) =
      (parseString rest).map fun parsed => (unitsOf char ++ parsed.1, parsed.2) := by
  rw [parseString.eq_def]
  simp only [notQuote, notBackslash, visible, if_false]
  cases parseString rest <;> rfl

theorem hexDigit_digitChar : ∀ digit < 16, hexDigit (Nat.digitChar digit) = some digit := by
  decide

theorem parseString_unicodeEscape {unit : Nat} (small : unit < 65536) (rest : List Char) :
    parseString (unicodeEscape unit ++ rest) =
      (parseString rest).map fun parsed => (Fin.ofNat 65536 unit :: parsed.1, parsed.2) := by
  have digits : unit / 4096 % 16 * 4096 + unit / 256 % 16 * 256 + unit / 16 % 16 * 16 +
      unit % 16 = unit := by omega
  simp only [unicodeEscape, List.cons_append, List.nil_append, parseString,
    hexDigit_digitChar _ (Nat.mod_lt _ (by decide : 0 < 16)), Option.bind_eq_bind,
    Option.bind_some, digits]
  cases parseString rest <;> rfl

theorem shortEscape_lookup : ∀ entry ∈ shortEscapes, shortEscape entry.2 = some entry.1 ∧
    entry.2 ≠ 'u' := by
  decide

/-- A code point is read back as its units. -/
theorem parseString_escape (point : CodePoint) (rest : List Char) :
    parseString (escape point ++ rest) =
      (parseString rest).map fun parsed => (point.units ++ parsed.1, parsed.2) := by
  cases point with
  | lone unit =>
      rw [escape, parseString_unicodeEscape unit.isLt]
      simp [CodePoint.units]
  | scalar char =>
      rw [escape, CodePoint.units]
      cases known : shortEscapes.lookup char with
      | some letter =>
          have listed : (char, letter) ∈ shortEscapes := by
            obtain ⟨before, after, whole, -⟩ := List.lookup_eq_some_iff.mp known
            simp [whole]
          obtain ⟨back, other⟩ := shortEscape_lookup _ listed
          dsimp only at back other ⊢
          exact parseString_short other back rest
      | none =>
          dsimp only
          by_cases control : char.toNat < 0x20
          · rw [if_pos control, parseString_unicodeEscape (by omega), unitsOf,
              if_pos (by omega)]
            rfl
          · have notQuote : char ≠ '"' := by
              rintro rfl
              cases known
            have notBackslash : char ≠ '\\' := by
              rintro rfl
              cases known
            rw [if_neg control]
            exact parseString_plain notQuote notBackslash control rest

/-- A quoted string is read back. -/
theorem parseString_quote (text : Text) (rest : List Char) :
    parseString ((codePoints text).flatMap escape ++ '"' :: rest) = some (text, rest) := by
  nth_rewrite 2 [← codePoints_units text]
  induction codePoints text with
  | nil =>
      exact parseString_end rest
  | cons point points ih =>
      rw [List.flatMap_cons, List.append_assoc, parseString_escape, ih, List.flatMap_cons]
      rfl

/-! ## Values -/

inductive Value where
  | null
  | bool (value : Bool)
  | number (text : List Char)
  | string (text : Text)
  | array (elements : List Value)
  | object (members : List (Text × Value))

def isWhitespace (char : Char) : Bool :=
  [' ', '\t', '\n', '\r'].contains char

def skipWhitespace (text : List Char) : List Char :=
  text.dropWhile isWhitespace

/-- `0` or digits that do not begin with it -/
def isWhole (digits : List Char) : Bool :=
  digits == ['0'] || !digits.isEmpty && digits.head? != some '0' && digits.all Char.isDigit

/-- An optional exponent. -/
def isExponent : List Char → Bool
  | [] => true
  | letter :: rest =>
      let digits :=
        match rest with
        | '+' :: digits => digits
        | '-' :: digits => digits
        | digits => digits
      (letter == 'e' || letter == 'E') && !digits.isEmpty && digits.all Char.isDigit

def isNumber (text : List Char) : Bool :=
  let text := if text.head? == some '-' then text.tail else text
  let rest := text.dropWhile Char.isDigit
  isWhole (text.takeWhile Char.isDigit) &&
    match rest with
    | '.' :: rest =>
        !(rest.takeWhile Char.isDigit).isEmpty && isExponent (rest.dropWhile Char.isDigit)
    | rest => isExponent rest

def isNumberChar (char : Char) : Bool :=
  char.isDigit || ['+', '-', '.', 'e', 'E'].contains char

/-- A value without members or elements. -/
def parseAtom (text : List Char) : Option (Value × List Char) :=
  if "null".toList.isPrefixOf text then some (.null, text.drop 4)
  else if "true".toList.isPrefixOf text then some (.bool true, text.drop 4)
  else if "false".toList.isPrefixOf text then some (.bool false, text.drop 5)
  else if isNumber (text.takeWhile isNumberChar) then
    some (.number (text.takeWhile isNumberChar), text.dropWhile isNumberChar)
  else none

mutual

/-- The value at the beginning of a text.  Every value nested in it takes fuel. -/
def parseValue : Nat → List Char → Option (Value × List Char)
  | 0, _ => none
  | fuel + 1, text =>
      match skipWhitespace text with
      | '"' :: rest => do
          let (text, rest) ← parseString rest
          return (.string text, rest)
      | '{' :: rest =>
          match skipWhitespace rest with
          | '}' :: rest => some (.object [], rest)
          | _ => do
              let (members, rest) ← parseMembers fuel rest
              return (.object members, rest)
      | '[' :: rest =>
          match skipWhitespace rest with
          | ']' :: rest => some (.array [], rest)
          | _ => do
              let (elements, rest) ← parseElements fuel rest
              return (.array elements, rest)
      | text => parseAtom text

/-- The members of an object up to its closing brace. -/
def parseMembers : Nat → List Char → Option (List (Text × Value) × List Char)
  | 0, _ => none
  | fuel + 1, text =>
      match skipWhitespace text with
      | '"' :: rest => do
          let (key, rest) ← parseString rest
          match skipWhitespace rest with
          | ':' :: rest => do
              let (value, rest) ← parseValue fuel rest
              match skipWhitespace rest with
              | ',' :: rest => do
                  let (members, rest) ← parseMembers fuel rest
                  return ((key, value) :: members, rest)
              | '}' :: rest => some ([(key, value)], rest)
              | _ => none
          | _ => none
      | _ => none

/-- The elements of an array up to its closing bracket. -/
def parseElements : Nat → List Char → Option (List Value × List Char)
  | 0, _ => none
  | fuel + 1, text => do
      let (value, rest) ← parseValue fuel text
      match skipWhitespace rest with
      | ',' :: rest => do
          let (elements, rest) ← parseElements fuel rest
          return (value :: elements, rest)
      | ']' :: rest => some ([value], rest)
      | _ => none

end

/-- `JSON.parse` -/
def parse (text : String) : Option Value := do
  let (value, rest) ← parseValue (text.toList.length + 1) text.toList
  if (skipWhitespace rest).isEmpty then some value else none

/-! ## Objects of strings -/

/-- The members of an object after one another. -/
def stringifyMembers : List (Text × Text) → List Char
  | [] => ['}']
  | [(key, value)] => quote key ++ ':' :: quote value ++ ['}']
  | (key, value) :: rest => quote key ++ ':' :: quote value ++ ',' :: stringifyMembers rest

/-- `JSON.stringify` of an object whose properties are strings -/
def stringify (members : List (Text × Text)) : String :=
  String.ofList ('{' :: stringifyMembers members)

@[simp]
theorem skipWhitespace_cons {char : Char} (visible : isWhitespace char = false)
    (rest : List Char) : skipWhitespace (char :: rest) = char :: rest := by
  simp [skipWhitespace, visible]

theorem parseValue_string {fuel : Nat} {text : Text} {body rest : List Char}
    (read : parseString body = some (text, rest)) :
    parseValue (fuel + 1) ('"' :: body) = some (.string text, rest) := by
  have visible : isWhitespace '"' = false := by decide
  simp [parseValue, visible, read]

theorem parseValue_object {fuel : Nat} {body rest : List Char} {members : List (Text × Value)}
    (read : parseMembers fuel ('"' :: body) = some (members, rest)) :
    parseValue (fuel + 1) ('{' :: '"' :: body) = some (.object members, rest) := by
  have visible : isWhitespace '{' = false ∧ isWhitespace '"' = false := by decide
  simp [parseValue, visible, read]

theorem parseMembers_last {fuel : Nat} {key : Text} {value : Value} {body rest after : List Char}
    (keyRead : parseString body = some (key, ':' :: rest))
    (valueRead : parseValue fuel rest = some (value, '}' :: after)) :
    parseMembers (fuel + 1) ('"' :: body) = some ([(key, value)], after) := by
  have visible : isWhitespace '"' = false ∧ isWhitespace ':' = false ∧
    isWhitespace '}' = false := by decide
  simp [parseMembers, visible, keyRead, valueRead]

theorem parseMembers_more {fuel : Nat} {key : Text} {value : Value}
    {members : List (Text × Value)} {body rest others after : List Char}
    (keyRead : parseString body = some (key, ':' :: rest))
    (valueRead : parseValue fuel rest = some (value, ',' :: others))
    (othersRead : parseMembers fuel others = some (members, after)) :
    parseMembers (fuel + 1) ('"' :: body) = some ((key, value) :: members, after) := by
  have visible : isWhitespace '"' = false ∧ isWhitespace ':' = false ∧
    isWhitespace ',' = false := by decide
  simp [parseMembers, visible, keyRead, valueRead, othersRead]

/-- What is written after the opening quote of the first key. -/
theorem stringifyMembers_cons (key value : Text) (others : List (Text × Text)) :
    ∃ body, stringifyMembers ((key, value) :: others) = '"' :: body := by
  cases others <;> exact ⟨_, rfl⟩

theorem parseMembers_stringify {members : List (Text × Text)} (some_ : members ≠ [])
    {fuel : Nat} (enough : members.length < fuel) (rest : List Char) :
    parseMembers fuel (stringifyMembers members ++ rest) =
      some (members.map fun member => (member.1, .string member.2), rest) := by
  induction members generalizing fuel with
  | nil => exact absurd rfl some_
  | cons member others ih =>
      obtain ⟨key, value⟩ := member
      obtain ⟨less, rfl⟩ : ∃ less, fuel = less + 2 := ⟨fuel - 2, by
        rw [List.length_cons] at enough
        omega⟩
      cases others with
      | nil =>
          have written : stringifyMembers [(key, value)] ++ rest =
              '"' :: ((codePoints key).flatMap escape ++ '"' :: ':' :: '"' ::
                ((codePoints value).flatMap escape ++ '"' :: '}' :: rest)) := by
            simp [stringifyMembers, quote]
          rw [written]
          exact parseMembers_last (parseString_quote _ _)
            (parseValue_string (parseString_quote _ _))
      | cons next others =>
          have later := ih (List.cons_ne_nil _ _) (Nat.lt_of_succ_lt_succ enough)
          have written : stringifyMembers ((key, value) :: next :: others) ++ rest =
              '"' :: ((codePoints key).flatMap escape ++ '"' :: ':' :: '"' ::
                ((codePoints value).flatMap escape ++ '"' :: ',' ::
                  (stringifyMembers (next :: others) ++ rest))) := by
            simp [stringifyMembers, quote]
          rw [written]
          exact parseMembers_more (parseString_quote _ _)
            (parseValue_string (parseString_quote _ _)) later

theorem length_le_stringifyMembers (members : List (Text × Text)) :
    members.length ≤ (stringifyMembers members).length := by
  induction members with
  | nil => exact Nat.zero_le _
  | cons member others ih =>
      obtain ⟨key, value⟩ := member
      cases others with
      | nil =>
          simp only [stringifyMembers, List.length_append, List.length_cons, List.length_nil]
          omega
      | cons next others =>
          simp only [stringifyMembers, List.length_append, List.length_cons] at ih ⊢
          omega

/-- The text of an object of strings is read back. -/
theorem parse_stringify {members : List (Text × Text)} (some_ : members ≠ []) :
    parse (stringify members) =
      some (.object (members.map fun member => (member.1, .string member.2))) := by
  have enough := Nat.lt_succ_of_le (length_le_stringifyMembers members)
  cases members with
  | nil => exact absurd rfl some_
  | cons member others =>
      obtain ⟨key, value⟩ := member
      obtain ⟨body, begins⟩ := stringifyMembers_cons key value others
      have read := parseMembers_stringify some_ enough []
      rw [List.append_nil, begins, Nat.succ_eq_add_one, List.length_cons] at read
      simp only [parse, stringify, String.toList_ofList, List.length_cons, begins,
        parseValue_object read, Option.bind_eq_bind, Option.bind_some]
      rfl

end Mosp.Data.Json
