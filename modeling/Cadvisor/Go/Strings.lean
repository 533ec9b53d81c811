import Cadvisor.Go.Runtime

/-! The functions of Go's `strings`, `strconv`, `fmt` and `path` packages that this
code calls, over the characters of a string. Every separator the code splits on is a
non-empty literal. -/

namespace Cadvisor.Go

/-- `strings.HasPrefix(s, prefix)` -/
def hasPrefix (s pre : String) : Bool := pre.data.isPrefixOf s.data

/-- `strings.TrimPrefix(s, prefix)` -/
def trimPrefix (s pre : String) : String :=
  if hasPrefix s pre then ⟨s.data.drop pre.length⟩ else s

/-- Go's `genSplit(s, sep, 0, n)` read left to right: `piece` is the text since the
last cut and `cuts` how many more cuts `n` allows (`none` for `n < 0`). A cut is made
as soon as `piece` ends with `sep`, which is where `strings.Index` finds the leftmost
occurrence of `sep` in the rest of the string. -/
def genSplit (sep : List Char) : Option Nat → List Char → List Char → List (List Char)
  | _, piece, [] => [piece]
  | some 0, piece, rest => [piece ++ rest]
  | cuts, piece, c :: rest =>
    if sep.isSuffixOf (piece ++ [c]) then
      (piece ++ [c]).take (piece.length + 1 - sep.length) :: genSplit sep (cuts.map (· - 1)) [] rest
    else genSplit sep cuts (piece ++ [c]) rest

/-- `strings.Split(s, sep)` -/
def split (s sep : String) : List String :=
  (genSplit sep.data none [] s.data).map String.mk

/-- `strings.SplitN(s, sep, n)` -/
def splitN (s sep : String) (n : Nat) : List String :=
  if n = 0 then [] else (genSplit sep.data (some (n - 1)) [] s.data).map String.mk

private theorem isSuffixOf_single (piece : List Char) (sep c : Char) :
    [sep].isSuffixOf (piece ++ [c]) = (c == sep) := by
  simp only [List.isSuffixOf, List.reverse_append, List.reverse_singleton, List.singleton_append,
    List.isPrefixOf, Bool.and_true]
  exact Bool.beq_comm

private theorem genSplit_single_of_not_mem (sep : Char) (cuts : Option Nat) (piece : List Char) :
    ∀ rest : List Char, sep ∉ rest → genSplit [sep] cuts piece rest = [piece ++ rest]
  | [], _ => by cases cuts <;> simp [genSplit]
  | c :: rest, absent => by
    have different : (c == sep) = false := by
      simp only [List.mem_cons, not_or] at absent; simpa using Ne.symm absent.1
    have tail := genSplit_single_of_not_mem sep cuts (piece ++ [c]) rest (fun h => absent (by simp [h]))
    rcases cuts with _ | _ | cuts <;> simp [genSplit, isSuffixOf_single, different, tail]

/-- A string without the separator splits into itself alone. -/
theorem split_of_not_mem (s : String) (sep : Char) (absent : sep ∉ s.data) :
    split s ⟨[sep]⟩ = [s] := by
  simp [split, genSplit_single_of_not_mem sep none [] s.data absent]

private theorem genSplit_once (sep : Char) (piece : List Char) :
    ∀ rest : List Char, sep ∈ rest → genSplit [sep] (some 1) piece rest =
      [piece ++ rest.takeWhile (· != sep), (rest.dropWhile (· != sep)).tail]
  | [], present => by simp at present
  | c :: rest, present => by
    by_cases same : c = sep
    · subst same
      cases rest with
      | nil => simp [genSplit, isSuffixOf_single]
      | cons d more => simp [genSplit, isSuffixOf_single]
    · have different : (c == sep) = false := by simpa using same
      have later : sep ∈ rest := by simpa [Ne.symm same] using present
      simp [genSplit, isSuffixOf_single, different, genSplit_once sep (piece ++ [c]) rest later,
        List.takeWhile_cons, List.dropWhile_cons, same]

/-- `strings.SplitN(s, "=", 2)` on a one-character separator: the text before
its first occurrence and the text after it, or `s` alone. -/
theorem splitN_two (s : String) (sep : Char) :
    splitN s ⟨[sep]⟩ 2 = if sep ∈ s.data then
      [⟨s.data.takeWhile (· != sep)⟩, ⟨(s.data.dropWhile (· != sep)).tail⟩] else [s] := by
  split_ifs with present
  · simp [splitN, genSplit_once sep [] s.data present]
  · simp [splitN, genSplit_single_of_not_mem sep (some 1) [] s.data present]

theorem takeWhile_ne_iff_prefix (c : Char) :
    ∀ (w l : List Char), c ∉ w → (l.takeWhile (· != c) = w ∧ c ∈ l ↔ w ++ [c] <+: l)
  | _, [], _ => by simp
  | [], d :: l, _ => by
    by_cases same : d = c
    · simp [same]
    · simp [List.takeWhile_cons, same, Ne.symm same]
  | a :: w, d :: l, absent => by
    have different : a ≠ c := fun same => absent (same ▸ List.mem_cons_self a w)
    rw [List.cons_append, List.cons_prefix_cons, ← takeWhile_ne_iff_prefix c w l (fun h => absent (.tail a h))]
    by_cases same : d = a
    · subst same
      simp [List.takeWhile_cons, different, Ne.symm different]
    · by_cases stop : d = c
      · subst stop; simp [different]
      · simp [List.takeWhile_cons, stop, same, Ne.symm same]

theorem genSplit_append_sep (sep : Char) :
    ∀ (x y piece : List Char), genSplit [sep] none piece (x ++ sep :: y) =
      genSplit [sep] none piece x ++ genSplit [sep] none [] y
  | [], y, piece => by simp [genSplit, isSuffixOf_single]
  | c :: x, y, piece => by
    by_cases same : c = sep
    · subst same
      simp [genSplit, isSuffixOf_single, genSplit_append_sep c x y []]
    · simp [genSplit, isSuffixOf_single, same, genSplit_append_sep sep x y (piece ++ [c])]

theorem split_append_sep (x y : String) (sep : Char) :
    split (x ++ ⟨[sep]⟩ ++ y) ⟨[sep]⟩ = split x ⟨[sep]⟩ ++ split y ⟨[sep]⟩ := by
  simp only [split, String.data_append, List.append_assoc, List.singleton_append,
    genSplit_append_sep, List.map_append]

private theorem split_intercalate_go (sep : Char) :
    ∀ (acc : String) (parts : List String),
      split (String.intercalate.go acc ⟨[sep]⟩ parts) ⟨[sep]⟩ =
        split acc ⟨[sep]⟩ ++ (parts.map (split · ⟨[sep]⟩)).flatten
  | acc, [] => by simp [String.intercalate.go]
  | acc, part :: parts => by
    rw [String.intercalate.go, split_intercalate_go sep _ parts, split_append_sep]
    simp

/-- Splitting parts joined by a one-character separator that none of them contains gives
the parts back. -/
theorem split_intercalate (sep : Char) (parts : List String) (nonempty : parts ≠ [])
    (absent : ∀ part ∈ parts, sep ∉ part.data) :
    split (String.intercalate ⟨[sep]⟩ parts) ⟨[sep]⟩ = parts := by
  obtain ⟨first, rest, rfl⟩ := List.exists_cons_of_ne_nil nonempty
  rw [String.intercalate, split_intercalate_go, split_of_not_mem first sep (absent first (by simp))]
  have whole : ∀ part ∈ rest, split part ⟨[sep]⟩ = [part] := fun part member =>
    split_of_not_mem part sep (absent part (by simp [member]))
  simp [List.map_congr_left whole, ← List.flatMap_def]

private theorem not_isSuffixOf_of_last (sep piece : List Char) (c last : Char)
    (ends : sep.getLast? = some last) (different : c ≠ last) :
    sep.isSuffixOf (piece ++ [c]) = false := by
  rw [Bool.eq_false_iff, ne_eq, List.isSuffixOf_iff_suffix]
  rintro ⟨front, joined⟩
  have lasts := congrArg List.getLast? joined
  simp [List.getLast?_append, ends] at lasts
  exact different lasts.symm

theorem genSplit_past (sep : List Char) (last : Char) (ends : sep.getLast? = some last) :
    ∀ (text piece rest : List Char), last ∉ text →
      genSplit sep none piece (text ++ rest) = genSplit sep none (piece ++ text) rest
  | [], piece, rest, _ => by simp
  | c :: text, piece, rest, absent => by
    have different : c ≠ last := fun same => absent (by simp [same])
    rw [List.cons_append, genSplit.eq_3 sep none piece c _ nofun,
      not_isSuffixOf_of_last sep piece c last ends different]
    simpa using genSplit_past sep last ends text (piece ++ [c]) rest (fun h => absent (by simp [h]))

theorem split_append_sep_end (s : String) (init : List Char) (last : Char)
    (absent : last ∉ s.data ++ init) :
    split (s ++ ⟨init ++ [last]⟩) ⟨init ++ [last]⟩ = [s, ""] := by
  have ends : (init ++ [last]).getLast? = some last := by simp
  have whole : (init ++ [last]).isSuffixOf (s.data ++ init ++ [last]) = true :=
    List.isSuffixOf_iff_suffix.mpr ⟨s.data, by simp⟩
  simp only [split, String.data_append, ← List.append_assoc]
  rw [genSplit_past _ last ends _ [] [last] absent, genSplit.eq_3 _ none _ last [] nofun]
  simp [whole, genSplit]

/-- `unicode.IsSpace`, also the table of `fmt`'s scanner. -/
def isSpace (c : Char) : Bool :=
  (0x09 ≤ c.toNat && c.toNat ≤ 0x0d) || c.toNat == 0x20 || c.toNat == 0x85 || c.toNat == 0xa0 ||
    c.toNat == 0x1680 || (0x2000 ≤ c.toNat && c.toNat ≤ 0x200a) || c.toNat == 0x2028 ||
    c.toNat == 0x2029 || c.toNat == 0x202f || c.toNat == 0x205f || c.toNat == 0x3000

/-- `strings.TrimSpace(s)` -/
def trimSpace (s : String) : String :=
  ⟨((s.data.dropWhile isSpace).reverse.dropWhile isSpace).reverse⟩

/-- `strings.ToLower(s)` on its ASCII letters. Go also lowers every other Unicode
letter; the lemmas about the maps it keys hold for any lowering function. -/
def toLower (s : String) : String := ⟨s.data.map Char.toLower⟩

/-- `strconv.IsPrint(r)`: exact on Latin-1, where every character from the space to
`~` and from `¡` to `ÿ` but the soft hyphen prints. Above `U+00FF` Go consults the
Unicode tables, which are not modelled: such runes count as printable. -/
def isPrint (r : Char) : Bool :=
  if r.toNat ≤ 0xff then
    (0x20 ≤ r.toNat && r.toNat ≤ 0x7e) || (0xa1 ≤ r.toNat && r.toNat != 0xad)
  else true

/-- `lowerhex[d & 0xF]` -/
def lowerhex (d : Nat) : Char := Nat.digitChar (d % 16)

/-- The `width` lowest hex digits of `r`, the highest first, as the loop
`for s := 4*(width-1); s >= 0; s -= 4` of `appendEscapedRune` writes them. -/
def hexDigits (r : Nat) : Nat → List Char
  | 0 => []
  | width + 1 => lowerhex (r >>> (4 * width)) :: hexDigits r width

/-- `appendEscapedRune(buf, r, '"', false, false)`: how `strconv.Quote` writes one rune. -/
def appendEscapedRune (r : Char) : List Char :=
  if r = '"' ∨ r = '\\' then ['\\', r]
  else if isPrint r then [r]
  else if r = '\x07' then ['\\', 'a']
  else if r = '\x08' then ['\\', 'b']
  else if r = '\x0c' then ['\\', 'f']
  else if r = '\n' then ['\\', 'n']
  else if r = '\r' then ['\\', 'r']
  else if r = '\t' then ['\\', 't']
  else if r = '\x0b' then ['\\', 'v']
  else if r.toNat < 0x20 ∨ r.toNat = 0x7f then '\\' :: 'x' :: hexDigits r.toNat 2
  else if r.toNat < 0x10000 then '\\' :: 'u' :: hexDigits r.toNat 4
  else '\\' :: 'U' :: hexDigits r.toNat 8

/-- `strconv.Quote(s)`, which `%q` prints for a string or an error's text. A Lean
string is valid UTF-8, so Go's `\x` escape of a byte that starts no rune never arises. -/
def quote (s : String) : String := "\"" ++ ⟨s.data.flatMap appendEscapedRune⟩ ++ "\""

example : quote "a\"b\\\n5\x7f" = "\"a\\\"b\\\\\\n5\\x7f\"" := by decide

/-- `strconv.Itoa(n)` -/
def itoa (n : Int) : String := toString n

/-- The `*NumError` of `strconv.ParseUint` on input `s`. -/
def numError (s reason : String) : String :=
  "strconv.ParseUint: parsing " ++ quote s ++ ": " ++ reason

/-- The digit loop of `strconv.ParseUint(s, 10, 64)`: `n` is the value of the digits
read so far, and the first non-digit or the first overflow ends it with an error. -/
def parseUintLoop (s : String) : Nat → List Char → GoResult UInt64
  | n, [] => .ok (UInt64.ofNat n)
  | n, c :: rest =>
    if c.isDigit then
      if n * 10 + (c.toNat - '0'.toNat) < UInt64.size then
        parseUintLoop s (n * 10 + (c.toNat - '0'.toNat)) rest
      else .error (numError s "value out of range")
    else .error (numError s "invalid syntax")

/-- `strconv.ParseUint(s, 10, 64)` -/
def parseUint (s : String) : GoResult UInt64 :=
  if s.isEmpty then .error (numError s "invalid syntax") else parseUintLoop s 0 s.data

/-- `ss.SkipSpace` of a `Sscanf`, where a newline in the input does not match the format. -/
def skipSpace : List Char → GoResult (List Char)
  | [] => .ok []
  | '\r' :: '\n' :: _ => .error "unexpected newline"
  | '\n' :: _ => .error "unexpected newline"
  | c :: rest => if isSpace c then skipSpace rest else .ok (c :: rest)

/-- `fmt.Sscanf(input, "%d", &v)` into a `uint64 v`, with its count of one on success:
leading spaces, then the longest run of decimal digits, parsed by `ParseUint`. -/
def sscanfUint (input : String) : GoResult UInt64 := do
  let rest ← skipSpace input.data
  if rest.isEmpty then throw "unexpected EOF"
  let token := rest.takeWhile Char.isDigit
  if token.isEmpty then throw "expected integer"
  parseUint ⟨token⟩

/-- The value of the decimal digits `cs` read after the value `acc`, as `ParseUint`
accumulates it. -/
def digitsValue (acc : Nat) (cs : List Char) : Nat :=
  cs.foldl (fun n c => n * 10 + (c.toNat - '0'.toNat)) acc

theorem le_digitsValue : ∀ (acc : Nat) (cs : List Char), acc ≤ digitsValue acc cs
  | _, [] => le_rfl
  | acc, c :: cs => calc
      acc ≤ acc * 10 + (c.toNat - '0'.toNat) := by omega
      _ ≤ digitsValue acc (c :: cs) := le_digitsValue _ cs

theorem parseUintLoop_digits (s : String) :
    ∀ (acc : Nat) (cs : List Char), (∀ c ∈ cs, c.isDigit = true) → digitsValue acc cs < UInt64.size →
      parseUintLoop s acc cs = .ok (UInt64.ofNat (digitsValue acc cs))
  | _, [], _, _ => rfl
  | acc, c :: cs, digits, fits => by
    have bounded := lt_of_le_of_lt (le_digitsValue (acc * 10 + (c.toNat - '0'.toNat)) cs) fits
    rw [parseUintLoop, if_pos (digits c (.head cs)), if_pos bounded]
    exact parseUintLoop_digits s _ cs (fun d member => digits d (.tail c member)) fits

private theorem digitChar_digit : ∀ k < 10,
    (Nat.digitChar k).isDigit = true ∧ (Nat.digitChar k).toNat - '0'.toNat = k := by
  decide

theorem toDigitsCore_ten : ∀ (fuel n : Nat) (ds : List Char), n < fuel →
    ∃ k < 10, ∃ digits, Nat.toDigitsCore 10 fuel n ds = Nat.digitChar k :: digits ++ ds ∧
      (∀ c ∈ Nat.digitChar k :: digits, c.isDigit = true) ∧
      digitsValue 0 (Nat.digitChar k :: digits) = n
  | 0, _, _, small => absurd small (Nat.not_lt_zero _)
  | fuel + 1, n, ds, small => by
    have units := Nat.mod_lt n (show 10 > 0 by decide)
    obtain ⟨digit, value⟩ := digitChar_digit (n % 10) units
    by_cases last : n / 10 = 0
    · refine ⟨n % 10, units, [], by simp [Nat.toDigitsCore, last], by simp [digit], ?_⟩
      simp only [digitsValue, List.foldl_cons, List.foldl_nil, value]
      omega
    · obtain ⟨k, small, digits, built, allDigits, high⟩ := toDigitsCore_ten fuel (n / 10)
        (Nat.digitChar (n % 10) :: ds) (by omega)
      refine ⟨k, small, digits ++ [Nat.digitChar (n % 10)], by simp [Nat.toDigitsCore, last, built],
        by simpa [or_imp, forall_and, digit] using allDigits, ?_⟩
      rw [← List.cons_append]
      simp only [digitsValue, List.foldl_append, List.foldl_cons, List.foldl_nil] at high ⊢
      rw [high, value]
      omega

theorem toString_digits (value : UInt64) :
    ∃ k < 10, ∃ rest, (toString value).data = Nat.digitChar k :: rest ∧
      (∀ c ∈ Nat.digitChar k :: rest, c.isDigit = true) ∧
      digitsValue 0 (Nat.digitChar k :: rest) = value.toNat := by
  simpa using toDigitsCore_ten (value.toNat + 1) value.toNat [] (Nat.lt_succ_self _)

theorem not_mem_toString (value : UInt64) {c : Char} (letter : c.isDigit = false) :
    c ∉ (toString value).data := by
  obtain ⟨k, _, rest, text, allDigits, _⟩ := toString_digits value
  rw [text]
  exact fun member => Bool.false_ne_true (letter ▸ allDigits c member)

/-- The decimal text of every `uint64` parses back to it. -/
theorem parseUint_toString (value : UInt64) : parseUint (toString value) = .ok value := by
  obtain ⟨k, _, rest, text, allDigits, read⟩ := toString_digits value
  have notEmpty : (toString value).isEmpty = false := by
    rw [Bool.eq_false_iff, ne_eq, String.isEmpty_iff, String.ext_iff, text]
    exact List.cons_ne_nil _ rest
  have fits : digitsValue 0 (Nat.digitChar k :: rest) < UInt64.size := read ▸ value.val.isLt
  rw [parseUint, notEmpty, if_neg Bool.false_ne_true, text, parseUintLoop_digits _ 0 _ allDigits fits, read]
  exact congrArg GoResult.ok (UInt64.toNat.inj (UInt64.toNat_ofNat_of_lt value.val.isLt))

theorem skipSpace_digitChar (k : Nat) (small : k < 10) (rest : List Char) :
    skipSpace (Nat.digitChar k :: rest) = .ok (Nat.digitChar k :: rest) := by
  interval_cases k <;> rfl

/-- `Sscanf` with `%d` reads back the decimal text of every `uint64` when what follows it
does not start with a digit, a newline included. -/
theorem sscanfUint_toString (value : UInt64) (after : String)
    (stops : ∀ c ∈ after.data.head?, c.isDigit = false) :
    sscanfUint (toString value ++ after) = .ok value := by
  obtain ⟨k, small, rest, text, allDigits, _⟩ := toString_digits value
  have token : (Nat.digitChar k :: (rest ++ after.data)).takeWhile Char.isDigit =
      Nat.digitChar k :: rest := by
    rw [← List.cons_append, List.takeWhile_append_of_pos allDigits]
    cases named : after.data with
    | nil => simp
    | cons c more => simp [List.takeWhile_cons, stops c (by simp [named])]
  have same : (⟨Nat.digitChar k :: rest⟩ : String) = toString value := String.ext text.symm
  rw [sscanfUint, String.data_append, text, List.cons_append, skipSpace_digitChar k small]
  simp [token, same, parseUint_toString, allDigits _ (.head rest)]

/-- One element of the scan of `path.Clean`; `kept` holds the elements kept so far,
the last one first. A `..` removes the element before it, is dropped at the root
of a rooted path, and is kept at the start of a relative one. -/
def cleanStep (rooted : Bool) (kept : List String) (element : String) : List String :=
  if element = "" ∨ element = "." then kept
  else if element = ".." then
    match kept with
    | top :: rest => if top = ".." then ".." :: kept else rest
    | [] => if rooted then [] else [".."]
  else element :: kept

/-- `path.Clean(p)`, which `filepath.Clean` is on Unix. -/
def clean (p : String) : String :=
  if p = "" then "." else
    let rooted := hasPrefix p "/"
    let body := "/".intercalate ((split p "/").foldl (cleanStep rooted) []).reverse
    if rooted then "/" ++ body else if body = "" then "." else body

/-- `path.Join(elem...)`, which `filepath.Join` is on Unix: the elements from the
first non-empty one, joined by slashes and cleaned. -/
def join (elems : List String) : String :=
  match elems.dropWhile (· = "") with
  | [] => ""
  | rest => clean ("/".intercalate rest)

end Cadvisor.Go
