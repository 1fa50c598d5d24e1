import Mathlib.Data.List.Infix

namespace Mcad.Go

theorem length_eq_zero_iff {s : String} : s.length = 0 ↔ s = "" := by
  cases s
  simp only [String.length, List.length_eq_zero]
  exact ⟨fun empty => by rw [empty], fun empty => congrArg String.data empty⟩

def contains (s substr : String) : Bool := decide (substr.data <:+: s.data)

/-- Go's strings.ToLower on the code points the quota manager matches against: it lowers `A` to
    `Z`. Go lowers other letters as well, but none of them to a letter of `cpu`, `memory` or
    `gpu`, so no match changes. -/
def toLower (s : String) : String := ⟨s.data.map Char.toLower⟩

def formatStrings (xs : List String) : String := "[" ++ " ".intercalate xs ++ "]"

def lowerhex : List Char := "0123456789abcdef".data

def hexDigits (width n : Nat) : List Char :=
  (List.range width).reverse.map fun k => lowerhex.getD ((n >>> (4 * k)) % 16) '0'

/-- Go's strconv.IsPrint. Up to U+00FF Go decides it by ranges; above, it consults Unicode
    tables, which are the parameter. -/
def isPrint (isPrintAbove : Char → Bool) (r : Char) : Bool :=
  if r.toNat ≤ 0xFF then (0x20 ≤ r.toNat && r.toNat ≤ 0x7E) || (0xA1 ≤ r.toNat && r.toNat != 0xAD)
  else isPrintAbove r

def escapedRune (isPrintAbove : Char → Bool) (r : Char) : List Char :=
  if r = '"' ∨ r = '\\' then ['\\', r]
  else if isPrint isPrintAbove r then [r]
  else match r with
    | '\x07' => ['\\', 'a']
    | '\x08' => ['\\', 'b']
    | '\x0c' => ['\\', 'f']
    | '\n' => ['\\', 'n']
    | '\r' => ['\\', 'r']
    | '\t' => ['\\', 't']
    | '\x0b' => ['\\', 'v']
    | r =>
      if r.toNat < 0x20 ∨ r.toNat = 0x7F then '\\' :: 'x' :: hexDigits 2 r.toNat
      else if r.toNat < 0x10000 then '\\' :: 'u' :: hexDigits 4 r.toNat
      else '\\' :: 'U' :: hexDigits 8 r.toNat

def quote (isPrintAbove : Char → Bool) (s : String) : String :=
  ⟨'"' :: s.data.flatMap (escapedRune isPrintAbove) ++ ['"']⟩

def tooLarge (x : Nat) : Bool := 1000000 < x

def parsenum (num : Nat) (isnum : Bool) : List Char → Nat × Bool × List Char
  | [] => (num, isnum, [])
  | c :: rest =>
    if c.isDigit then
      if tooLarge num then (0, false, [])
      else parsenum (num * 10 + (c.toNat - '0'.toNat)) true rest
    else (num, isnum, c :: rest)

def parseArgNumber (rest : List Char) : Int × Bool × List Char :=
  if rest.length < 2 then (0, false, rest)
  else match rest.dropWhile (· ≠ ']') with
    | [] => (0, false, rest)
    | _ :: after =>
      match parsenum 0 false (rest.takeWhile (· ≠ ']')) with
      | (width, true, []) => ((width : Int) - 1, true, after)
      | _ => (0, false, after)

def badWidthString : List Char := "%!(BADWIDTH)".data
def badPrecString : List Char := "%!(BADPREC)".data
def noVerbString : List Char := "%!(NOVERB)".data

def missingArg (verb : Char) : List Char := "%!".data ++ verb :: "(MISSING)".data
def badArgNum (verb : Char) : List Char := "%!".data ++ verb :: "(BADINDEX)".data

def isFlag : Char → Bool
  | '#' | '0' | '+' | '-' | ' ' => true
  | _ => false

/-- Where Go's `doPrintf` stands inside one verb: whether an operand index is still good, whether
    the last item was an index, what the verb has written, and the rest of the format. -/
structure Scan where
  goodArgNum : Bool
  afterIndex : Bool
  written : List Char
  rest : List Char

def Scan.argNumber (s : Scan) : Scan :=
  match s.rest with
  | '[' :: rest =>
    let parsed := parseArgNumber rest
    { s with goodArgNum := false, afterIndex := parsed.2.1, rest := parsed.2.2 }
  | _ => { s with afterIndex := false }

def Scan.width (s : Scan) : Scan :=
  match s.rest with
  | '*' :: rest => { s with afterIndex := false, written := s.written ++ badWidthString, rest }
  | rest =>
    let parsed := parsenum 0 false rest
    { s with goodArgNum := s.goodArgNum && !(s.afterIndex && parsed.2.1), rest := parsed.2.2 }

def Scan.precisionValue (s : Scan) : Scan :=
  match s.rest with
  | '*' :: rest => { s with afterIndex := false, written := s.written ++ badPrecString, rest }
  | rest => { s with rest := (parsenum 0 false rest).2.2 }

def Scan.precision (s : Scan) : Scan :=
  match s.rest with
  | '.' :: c :: more =>
    { s with goodArgNum := s.goodArgNum && !s.afterIndex, rest := c :: more }.argNumber.precisionValue
  | _ => s

def Scan.verbArgNumber (s : Scan) : Scan := if s.afterIndex then s else s.argNumber

def Scan.verb (s : Scan) : List Char × Option (List Char) :=
  match s.rest with
  | [] => (s.written ++ noVerbString, none)
  | v :: rest =>
    (s.written ++ if v = '%' then ['%'] else if s.goodArgNum then missingArg v else badArgNum v,
      some rest)

def directive (format : List Char) : List Char × Option (List Char) :=
  (Scan.mk true false [] (format.dropWhile isFlag)).argNumber.width.precision.verbArgNumber.verb

/-- Go's `doPrintf` with no operands, given a step of fuel per character of the format. -/
def doPrintf : Nat → List Char → List Char
  | 0, _ => []
  | _ + 1, [] => []
  | fuel + 1, c :: rest =>
    if c = '%' then
      match directive rest with
      | (written, none) => written
      | (written, some more) => written ++ doPrintf fuel more
    else c :: doPrintf fuel rest

/-- The text of fmt.Sprintf(format), and of fmt.Errorf(format), with no operands. -/
def sprintf (format : String) : String := ⟨doPrintf format.length format.data⟩

end Mcad.Go
