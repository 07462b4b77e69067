import Mathlib.Data.List.Infix
import Mathlib.Data.String.Basic
import ShoalBuild.World

/-!
# Shoal build automation - the Python string operations the script uses

The script reads tool output with {lit}`str.strip`, {lit}`str.split`, the
{lit}`in` operator and slicing, formats sizes with {lit}`:.1f`, and serializes the
build record with {lit}`json.dumps`.  Each is written here over character lists,
by structural recursion, so that the lemmas below go by induction.

Main results:

- Theorem {lit}`pySplit_ne_nil`: a line holding a character other than white space
  splits into at least one word, so {lit}`line.split()[-1]` never raises on a line
  that contains {lit}`total:`.
- Theorem {lit}`splitOn_slash`: Lean's {lit}`String.splitOn` on {lit}`"/"` cuts at
  every slash and keeps empty pieces, as Python's {lit}`str.split("/")` does, so
  {lit}`splitOn_slash_length` and {lit}`splitOn_slash_pair` say how many pieces a
  text gives and when it gives exactly two.
-/

namespace Shoal
namespace Build

/-! ## White space, strip and split -/

/-- {lit}`str.isspace` for one character. -/
def isPySpace (c : Char) : Bool :=
  let n := c.toNat
  (9 ≤ n && n ≤ 13) || (28 ≤ n && n ≤ 32) || n == 0x85 || n == 0xa0 || n == 0x1680 ||
    (0x2000 ≤ n && n ≤ 0x200a) || n == 0x2028 || n == 0x2029 || n == 0x202f ||
    n == 0x205f || n == 0x3000

/-- {lit}`str.strip()`. -/
def pyStrip (s : String) : String :=
  ⟨((s.data.dropWhile isPySpace).reverse.dropWhile isPySpace).reverse⟩

/-- The words of a character list, given the current word read so far (reversed). -/
def wordsFrom : List Char → List Char → List String
  | [], [] => []
  | [], word => [⟨word.reverse⟩]
  | c :: cs, word =>
    if isPySpace c then
      if word = [] then wordsFrom cs [] else ⟨word.reverse⟩ :: wordsFrom cs []
    else wordsFrom cs (c :: word)

/-- {lit}`str.split()`: the maximal runs of characters other than white space. -/
def pySplit (s : String) : List String := wordsFrom s.data []

/-- A pending word, or any later character that is not white space, yields a word. -/
theorem wordsFrom_ne_nil (cs word : List Char) (h : word ≠ [] ∨ ∃ c ∈ cs, isPySpace c = false) :
    wordsFrom cs word ≠ [] := by
  induction cs generalizing word with
  | nil =>
    cases word with
    | nil => simp at h
    | cons c w => simp [wordsFrom]
  | cons c cs ih =>
    unfold wordsFrom
    by_cases hc : isPySpace c = true
    · by_cases hw : word = []
      · have hrest : ∃ d ∈ cs, isPySpace d = false := by
          rcases h with h | ⟨d, hd, hsp⟩
          · exact absurd hw h
          · rcases List.mem_cons.mp hd with rfl | hd
            · simp [hc] at hsp
            · exact ⟨d, hd, hsp⟩
        simpa [hc, hw] using ih [] (Or.inr hrest)
      · simp [hc, hw]
    · simpa [hc] using ih (c :: word) (Or.inl (List.cons_ne_nil c word))

/-- A line holding a character other than white space has a last word. -/
theorem pySplit_ne_nil (s : String) (h : ∃ c ∈ s.data, isPySpace c = false) :
    pySplit s ≠ [] :=
  wordsFrom_ne_nil s.data [] (Or.inr h)

/-- {lit}`pattern in s` for strings. -/
def hasSub (pattern s : String) : Bool := decide (pattern.data <:+: s.data)

/-- Every character of the pattern occurs in a string that contains it. -/
theorem mem_of_hasSub {pattern s : String} (h : hasSub pattern s = true) {c : Char}
    (hc : c ∈ pattern.data) : c ∈ s.data :=
  (of_decide_eq_true h).subset hc

/-- A line containing {lit}`total:` has a last word. -/
theorem pySplit_ne_nil_of_total {line : String} (h : hasSub "total:" line = true) :
    pySplit line ≠ [] :=
  pySplit_ne_nil line ⟨'t', mem_of_hasSub h (by decide), by decide⟩

/-! ## Splitting on a slash

{lit}`String.splitOn` walks byte positions; on a one-character separator it is
{lit}`List.splitOn` on the characters, for which Mathlib has the round trips.  The
proof follows {lit}`String.splitAux_of_valid` of Batteries. -/

/-- {lit}`String.splitOnAux` on {lit}`"/"`, from a valid position inside the piece
being read, is {lit}`List.splitOnP` on the characters that remain. -/
theorem splitOnAux_slash (l m r : List Char) (acc : List String) :
    String.splitOnAux ⟨l ++ m ++ r⟩ "/" ⟨String.utf8Len l⟩
        ⟨String.utf8Len l + String.utf8Len m⟩ 0 acc =
      acc.reverse ++ (List.splitOnP.go (· == '/') r m.reverse).map String.mk := by
  have hsep : "/".get 0 = '/' ∧ "/".next 0 = ⟨1⟩ ∧ "/".endPos ≤ ⟨1⟩ := ⟨rfl, rfl, Nat.le_refl 1⟩
  unfold String.splitOnAux
  simp only [List.append_assoc, String.atEnd_iff, String.endPos_eq, String.utf8Len_append,
    String.Pos.mk_le_mk, Nat.add_le_add_iff_left, add_le_iff_nonpos_right, nonpos_iff_eq_zero,
    String.utf8Len_eq_zero, List.reverse_cons, hsep,
    show ∀ p : String.Pos, p - 0 = p from fun p => String.Pos.ext (by simp)]
  split
  · subst r; simpa [List.splitOnP.go] using String.extract_of_valid l m []
  · obtain ⟨c, r, rfl⟩ := r.exists_cons_of_ne_nil ‹_›
    simp only [by
      simpa using
        (⟨String.get_of_valid (l ++ m) (c :: r), String.next_of_valid (l ++ m) c r⟩ : _ ∧ _),
      List.splitOnP.go, List.reverse_reverse]
    by_cases hc : c = '/'
    · -- a slash closes the piece read so far
      subst hc
      have hsub : (⟨String.utf8Len l + String.utf8Len m + 1⟩ : String.Pos) - ⟨1⟩ =
          ⟨String.utf8Len l + String.utf8Len m⟩ := String.Pos.ext (by simp)
      simp only [beq_self_eq_true, if_true, show '/'.utf8Size = 1 from rfl, hsub,
        by simpa using String.extract_of_valid l m ('/' :: r)]
      simpa [Nat.add_assoc] using splitOnAux_slash (l ++ m ++ ['/']) [] r (⟨m⟩ :: acc)
    · simp only [beq_iff_eq, hc, if_false]
      simpa [Nat.add_assoc] using splitOnAux_slash l (m ++ [c]) r acc

/-- {lit}`s.split("/")`: the pieces of the characters between the slashes. -/
theorem splitOn_slash (s : String) : s.splitOn "/" = (s.data.splitOn '/').map String.mk := by
  simpa [String.splitOn, List.splitOn] using splitOnAux_slash [] [] s.data []

/-- A list splits on {lit}`'/'` into one piece more than it has slashes. -/
theorem splitOn_slash_length_data (l : List Char) :
    (l.splitOn '/').length = l.count '/' + 1 := by
  induction l with
  | nil => rfl
  | cons c l ih =>
    simp only [List.splitOn, List.splitOnP_cons, List.count_cons, beq_iff_eq] at ih ⊢
    split <;> simp [ih]

/-- A text splits on {lit}`"/"` into one piece more than it has slashes. -/
theorem splitOn_slash_length (s : String) : (s.splitOn "/").length = s.data.count '/' + 1 := by
  rw [splitOn_slash, List.length_map, splitOn_slash_length_data]

/-- Two slash-free pieces joined by a slash split back into those pieces. -/
theorem splitOn_slash_pair {goos goarch : String} (h₁ : '/' ∉ goos.data)
    (h₂ : '/' ∉ goarch.data) : (goos ++ "/" ++ goarch).splitOn "/" = [goos, goarch] := by
  have hfree : ∀ {l : List Char}, '/' ∉ l → ∀ x ∈ l, ¬(x == '/') = true :=
    fun hl x hx hs => hl (beq_iff_eq.mp hs ▸ hx)
  have hdata : (goos.data ++ '/' :: goarch.data).splitOn '/' = [goos.data, goarch.data] := by
    rw [List.splitOn, List.splitOnP_first _ _ (hfree h₁) '/' (beq_self_eq_true _),
      List.splitOnP_eq_single _ _ (hfree h₂)]
  rw [splitOn_slash]
  simpa using congrArg (List.map String.mk) hdata

/-- A text with exactly one slash is two slash-free pieces joined by it. -/
theorem eq_slash_of_count {p : String} (h : p.data.count '/' = 1) :
    ∃ goos goarch : String, p = goos ++ "/" ++ goarch ∧ '/' ∉ goos.data ∧ '/' ∉ goarch.data := by
  obtain ⟨a, b, hab⟩ := List.length_eq_two.mp (by rw [splitOn_slash_length_data, h])
  have hp : p.data = a ++ '/' :: b := by
    simpa [hab, List.intercalate] using (List.intercalate_splitOn p.data '/').symm
  rw [hp, List.count_append, List.count_cons_self] at h
  have ha : '/' ∉ a := List.count_eq_zero.mp (by omega)
  have hb : '/' ∉ b := List.count_eq_zero.mp (by omega)
  exact ⟨⟨a⟩, ⟨b⟩, String.ext (by simpa using hp), ha, hb⟩

/-! ## Joining -/

/-- The characters {lit}`String.intercalate` builds from an accumulated text. -/
theorem intercalate_go_data (sep acc : String) (l : List String) :
    (String.intercalate.go acc sep l).data =
      acc.data ++ (l.map fun b => sep.data ++ b.data).flatten := by
  induction l generalizing acc with
  | nil => simp [String.intercalate.go]
  | cons b l ih => simp [String.intercalate.go, ih, List.append_assoc]

/-- The characters of {lit}`str(p / name)`: those of the directory's path and a slash
(one slash for the root), then the name. -/
theorem Path.str_div_data (p : Path) (name : String) :
    (p / name).str.data = (if p.parts = [] then ['/'] else p.str.data ++ ['/']) ++ name.data := by
  obtain ⟨parts⟩ := p
  cases parts with
  | nil => rfl
  | cons a l =>
    simp [HDiv.hDiv, Path.div, Path.str, String.intercalate, intercalate_go_data]

/-- Two names joined to one directory give the same path text only if they are the same
name. -/
theorem Path.str_div_inj {p : Path} {n₁ n₂ : String} (h : (p / n₁).str = (p / n₂).str) :
    n₁ = n₂ :=
  String.ext (List.append_cancel_left (by rw [← Path.str_div_data, ← Path.str_div_data, h]))

/-- A path joined with a name is not the directory itself. -/
theorem Path.div_ne (p : Path) (name : String) : p / name ≠ p := fun h => by
  have := congrArg (fun q : Path => q.parts.length) h
  simp [HDiv.hDiv, Path.div] at this

/-! ## Number formatting -/

/-- {lit}`f"{size / (1024 * 1024):.1f}"`: the size in MiB, correctly rounded to one
decimal, ties to even, as Python formats the exact binary quotient. -/
def formatMB (size : Nat) : String :=
  let t := size * 10
  let d := 1024 * 1024
  let q := t / d
  let r := t % d
  let q' := if 2 * r > d || (2 * r == d && q % 2 == 1) then q + 1 else q
  toString (q' / 10) ++ "." ++ toString (q' % 10)

example : formatMB (5 * 1024 * 1024 + 524288) = "5.5" := by decide

/-! ## JSON strings -/

/-- Four lowercase hexadecimal digits of a code unit. -/
def hex4 (n : Nat) : String :=
  ⟨[3, 2, 1, 0].map fun i => Nat.digitChar (n / Nat.pow 16 i % 16)⟩

/-- How {lit}`json.dumps` with {lit}`ensure_ascii=True` writes one character. -/
def jsonEscape (c : Char) : String :=
  match c.toNat with
  | 0x22 => "\\\""
  | 0x5c => "\\\\"
  | 0x0a => "\\n"
  | 0x0d => "\\r"
  | 0x09 => "\\t"
  | 0x08 => "\\b"
  | 0x0c => "\\f"
  | n =>
    if 0x20 ≤ n ∧ n ≤ 0x7e then c.toString
    else if n < 0x10000 then "\\u" ++ hex4 n
    else
      let v := n - 0x10000
      "\\u" ++ hex4 (0xd800 + v / 0x400) ++ "\\u" ++ hex4 (0xdc00 + v % 0x400)

/-- {lit}`json.dumps` of a string. -/
def jsonString (s : String) : String := "\"" ++ String.join (s.data.map jsonEscape) ++ "\""

example : jsonString "a\"b" = "\"a\\\"b\"" := by decide

end Build
end Shoal
