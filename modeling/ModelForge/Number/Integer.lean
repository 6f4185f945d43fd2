import ModelForge.Number.Digit
import ModelForge.Text.Quoted
import ModelForge.Text.Segments

/-!
# Integer literals

A decimal integer literal is an optional sign and digits, where single underscores may stand
between digits and blanks around the whole. `parse` reads one and says what is wrong with any
other text; `digitsIn` reads digits of another base; `Lenient.parse` reads the looser form that
fields of a document may have.
-/

namespace ModelForge

namespace Integer

/-- The value of a digit in a base up to sixteen. -/
def digitIn (base : Nat) (c : Char) : Option Nat :=
  let value :=
    match digit? c with
    | some d => some d
    | none =>
      if 'a' ≤ c ∧ c ≤ 'f' then some (c.toNat - 0x57)
      else if 'A' ≤ c ∧ c ≤ 'F' then some (c.toNat - 0x37)
      else none
  value.filter (· < base)

/-- The digits of a base at the front of a text, with single underscores between them: how many
there are, the number they make and what follows. Given are the count and the number so far and
whether a digit has just been read; there is no such front if an underscore stands anywhere else, or
if no digit comes first. -/
def digitRun (base count acc : Nat) (afterDigit : Bool) :
    List Char → Option (Nat × Nat × List Char)
  | [] => if afterDigit then some (count, acc, []) else none
  | c :: rest =>
    if c = '_' then if afterDigit then digitRun base count acc false rest else none
    else
      match digitIn base c with
      | some d => digitRun base (count + 1) (acc * base + d) true rest
      | none => if afterDigit then some (count, acc, c :: rest) else none

/-- The number that digits of a base stand for; there must be at least one. -/
def digitsIn (base : Nat) (s : List Char) : Option Nat :=
  match digitRun base 0 0 false s with
  | some (_, n, []) => some n
  | _ => none

/-- The most digits a decimal literal may have. -/
def digitLimit : Nat := 4300

/-- Why something stands for no integer. -/
inductive Fault where
  /-- The text is no literal of the base. -/
  | malformed (base : Nat) (text : String)
  /-- The literal has too many digits. -/
  | tooLong (digits : Nat)
  /-- The floating-point number is infinite. -/
  | infinite
  /-- The floating-point value is no number. -/
  | undefined
  /-- Neither a number nor a text, but of another type. -/
  | unsuited (type : String)
  deriving DecidableEq, Repr

/-- The wording of a fault. -/
def Fault.message : Fault → String
  | .malformed base text =>
    s!"invalid literal for int() with base {base}: " ++
      String.ofList ((Quoted.quote text).toList.take 200)
  | .tooLong digits =>
    s!"Exceeds the limit ({digitLimit} digits) for integer string conversion: value has " ++
      s!"{digits} digits; use sys.set_int_max_str_digits() to increase the limit"
  | .infinite => "cannot convert float infinity to integer"
  | .undefined => "cannot convert float NaN to integer"
  | .unsuited type =>
    "int() argument must be a string, a bytes-like object or a real number, " ++ s!"not '{type}'"

/-- The sign in front of a text and what follows it. -/
def splitSign : List Char → Bool × List Char
  | '-' :: rest => (true, rest)
  | '+' :: rest => (false, rest)
  | s => (false, s)

/-- The letters that may follow a leading zero to mark a base. -/
def baseMarks : Nat → List Char
  | 2 => ['b', 'B']
  | 8 => ['o', 'O']
  | 16 => ['x', 'X']
  | _ => []

/-- What follows the mark of a base, if there is one. -/
def dropMark (base : Nat) : List Char → List Char
  | '0' :: c :: rest =>
    if (baseMarks base).contains c then
      match rest with
      | '_' :: more => more
      | _ => rest
    else '0' :: c :: rest
  | s => s

/-- Reads a signed literal of a base. Too many digits at its front are reported even if the text is
no literal. -/
def parseIn (base : Nat) (s : String) : Except Fault Int :=
  let (negative, body) := splitSign (trimBlanks s.toList)
  match digitRun base 0 0 false (dropMark base body) with
  | none => .error (.malformed base s)
  | some (count, n, rest) =>
    if base = 10 ∧ digitLimit < count then .error (.tooLong count)
    else if rest.isEmpty then .ok (if negative then -(n : Int) else n)
    else .error (.malformed base s)

/-- Reads a signed decimal literal. -/
def parse (s : String) : Except Fault Int := parseIn 10 s

/-!
### Lenient literals

A lenient literal has ASCII digits only. Zeros and underscores in front of it count for nothing,
and it may end in a point with zeros behind it.
-/

namespace Lenient

/-- Why a text is no lenient literal. -/
inductive Fault where
  | malformed
  | tooLong
  deriving DecidableEq, Repr

/-- Whether more digits than allowed stand at the front of a text, the sign counted with them. -/
def isTooLong (s : List Char) : Bool :=
  let (signs, digits) :=
    match s with
    | '-' :: rest => (1, rest)
    | _ => (0, s)
  !(digits.head? == some '0') && digitLimit < signs + (digits.takeWhile Char.isDigit).length

/-- The digits behind zeros and underscores in front, of which one zero stays if nothing else is
there. None if something else than a digit comes first. -/
def dropZeros (s : List Char) : Option (List Char) :=
  match s with
  | '0' :: rest =>
    let front := rest.takeWhile fun c => c == '0' || c == '_'
    match rest.drop front.length with
    | [] => some [(('0' :: front).getLast?).getD '0']
    | '.' :: more => some ((('0' :: front).getLast?).getD '0' :: '.' :: more)
    | c :: more => if c.isDigit then some (c :: more) else none
  | c :: _ => if c.isDigit then some s else none
  | [] => none

/-- A text without a point that only zeros follow. -/
def dropPlaces (s : List Char) : List Char :=
  if ((s.dropWhile (· ≠ '.')).drop 1).all (· = '0') then s.takeWhile (· ≠ '.') else s

/-- A text without its underscores, if each of them stands between two other characters. -/
def dropBars (s : List Char) : List Char :=
  let parts := Segments.splitOn '_' s
  if parts.any List.isEmpty then s else parts.flatten

/-- Reads a lenient literal. -/
def parse (s : String) : Except Fault Int :=
  if isTooLong s.toList then .error .tooLong
  else
    let (negative, body) := splitSign (trimBlanks s.toList)
    match (dropZeros body).map fun digits => dropBars (dropPlaces digits) with
    | none => .error .malformed
    | some digits =>
      if isTooLong (if negative then '-' :: digits else digits) then .error .tooLong
      else if digits.all Char.isDigit then
        match digitsIn 10 digits with
        | some n => .ok (if negative then -(n : Int) else n)
        | none => .error .malformed
      else .error .malformed

end Lenient

end Integer

end ModelForge
