import Mathlib.Data.String.Basic
import ShoalBuild.Matrix

/-!
# Shoal build automation - reading the build record back

{lit}`generate_build_info` writes {lit}`json.dumps(build_info, indent=2)` to
{lit}`build/build-info.json`.  The script never reads the file back; this module
gives the reader a consumer of the file would run: JSON strings with every escape
{lit}`json.dumps` can produce, surrogate pairs included, read one character at a time,
and the seven items of the record in the order and layout the writer uses.  The round
trip says that the file loses no field of the record.

Main results:

- Theorem {lit}`unescape_jsonEscape`: the reader decodes the escape of one character
  back to that character, whatever text follows.
- Theorem {lit}`readString_jsonString`: a JSON string reads back as the string it was
  written from, and the reader stops right after its closing quote.
- Theorem {lit}`BuildInfo.parse_dumps`: every build record reads back from its JSON
  text.
- Theorem {lit}`generateBuildInfo_record`: when {lit}`generate_build_info` returns, its
  last act was to write {lit}`build/build-info.json`, and that text reads back as the
  record it returns, also from the file in text mode where Windows wrote
  {lit}`\r\n` for each line feed.
- Theorem {lit}`generateBuildInfo_ascii`: whatever the tools print, the file is ASCII
  on every machine and has as many bytes as characters, so every locale encoding
  writes the same bytes.
-/

namespace Shoal
namespace Build

/-! ## Hexadecimal digits -/

/-- The value of a hexadecimal digit of either case. -/
def hexDigit? (c : Char) : Option Nat :=
  if '0' ≤ c ∧ c ≤ '9' then some (c.toNat - 48)
  else if 'a' ≤ c ∧ c ≤ 'f' then some (c.toNat - 87)
  else if 'A' ≤ c ∧ c ≤ 'F' then some (c.toNat - 55)
  else none

/-- Each of the sixteen digits {lit}`hex4` writes reads back as its value. -/
theorem hexDigit?_digitChar {d : Nat} (h : d < 16) : hexDigit? (Nat.digitChar d) = some d := by
  have hall : ∀ d < 16, hexDigit? (Nat.digitChar d) = some d := by decide
  exact hall d h

/-- The digits of {lit}`hex4`, high digit first. -/
theorem hex4_data (n : Nat) :
    (hex4 n).data = [Nat.digitChar (n / 4096 % 16), Nat.digitChar (n / 256 % 16),
      Nat.digitChar (n / 16 % 16), Nat.digitChar (n % 16)] := by
  simp only [hex4, List.map_cons, List.map_nil, Nat.pow_eq, Nat.reducePow, Nat.div_one]

/-! ## JSON strings -/

/-- The character a one-letter escape {lit}`\c` stands for. -/
def unescapeChar : Char → Option Char
  | '"' => some '"'
  | '\\' => some '\\'
  | '/' => some '/'
  | 'b' => some '\x08'
  | 'f' => some '\x0c'
  | 'n' => some '\n'
  | 'r' => some '\r'
  | 't' => some '\t'
  | _ => none

/-- Put a decoded character in front of the rest of the string body. -/
def pushChar (c : Char) : Option (List Char × List Char) → Option (List Char × List Char) :=
  Option.map fun p => (c :: p.1, p.2)

/-- Where the reader stands inside the body of a JSON string. -/
inductive Lex where
  /-- Between two characters. -/
  | plain
  /-- Right after a backslash. -/
  | escape
  /-- Inside the hexadecimal digits of a {lit}`\u` escape: the high surrogate this
  escape must complete, if any, how many digits are left, and their value so far. -/
  | hex (high : Option Nat) (left value : Nat)
  /-- After a high surrogate, before the backslash of its low half. -/
  | lowSlash (high : Nat)
  /-- After that backslash, before the {lit}`u`. -/
  | lowU (high : Nat)
  deriving DecidableEq, Repr

/-- What a complete {lit}`\u` escape of code unit {lit}`n` means: a character, or the
high half of a surrogate pair whose low half must follow. -/
def closeHex : Option Nat → Nat → Option (Char ⊕ Nat)
  | none, n =>
    if 0xd800 ≤ n ∧ n < 0xdc00 then some (.inr n)
    else if 0xdc00 ≤ n ∧ n < 0xe000 then none
    else some (.inl (Char.ofNat n))
  | some hi, n =>
    if 0xdc00 ≤ n ∧ n < 0xe000 then
      some (.inl (Char.ofNat (0x10000 + (hi - 0xd800) * 0x400 + (n - 0xdc00))))
    else none

/-- The characters of a JSON string body up to its closing quote, and the text after
that quote, read one character at a time from the given state. -/
def unescapeFrom : Lex → List Char → Option (List Char × List Char)
  | _, [] => none
  | .plain, c :: cs =>
    if c = '"' then some ([], cs)
    else if c = '\\' then unescapeFrom .escape cs
    else if c.toNat < 0x20 then none
    else pushChar c (unescapeFrom .plain cs)
  | .escape, c :: cs =>
    if c = 'u' then unescapeFrom (.hex none 4 0) cs
    else (unescapeChar c).bind fun x => pushChar x (unescapeFrom .plain cs)
  | .hex _ 0 _, _ :: _ => none
  | .hex high (left + 1) value, c :: cs =>
    match hexDigit? c with
    | none => none
    | some d =>
      if left ≠ 0 then unescapeFrom (.hex high left (value * 16 + d)) cs
      else
        match closeHex high (value * 16 + d) with
        | some (.inl x) => pushChar x (unescapeFrom .plain cs)
        | some (.inr hi) => unescapeFrom (.lowSlash hi) cs
        | none => none
  | .lowSlash hi, c :: cs => if c = '\\' then unescapeFrom (.lowU hi) cs else none
  | .lowU hi, c :: cs => if c = 'u' then unescapeFrom (.hex (some hi) 4 0) cs else none

/-- The body of a JSON string and the text after its closing quote. -/
def unescape (cs : List Char) : Option (List Char × List Char) := unescapeFrom .plain cs

/-! ### One step of the reader

Each lemma below is one transition of {lit}`unescapeFrom`; the round trips are built
from them and never unfold the reader again. -/

@[simp]
theorem unescapeFrom_plain_quote (cs : List Char) :
    unescapeFrom .plain ('"' :: cs) = some ([], cs) := rfl

@[simp]
theorem unescapeFrom_plain_backslash (cs : List Char) :
    unescapeFrom .plain ('\\' :: cs) = unescapeFrom .escape cs := rfl

@[simp]
theorem unescapeFrom_escape_u (cs : List Char) :
    unescapeFrom .escape ('u' :: cs) = unescapeFrom (.hex none 4 0) cs := rfl

@[simp]
theorem unescapeFrom_lowSlash (hi : Nat) (cs : List Char) :
    unescapeFrom (.lowSlash hi) ('\\' :: cs) = unescapeFrom (.lowU hi) cs := rfl

@[simp]
theorem unescapeFrom_lowU (hi : Nat) (cs : List Char) :
    unescapeFrom (.lowU hi) ('u' :: cs) = unescapeFrom (.hex (some hi) 4 0) cs := rfl

/-- A character other than a quote, a backslash or a control character stands for
itself. -/
theorem unescapeFrom_plain {c : Char} (hq : c ≠ '"') (hb : c ≠ '\\') (hs : 0x20 ≤ c.toNat)
    (cs : List Char) : unescapeFrom .plain (c :: cs) = pushChar c (unescapeFrom .plain cs) := by
  rw [unescapeFrom, if_neg hq, if_neg hb, if_neg (by omega)]

/-- A hexadecimal digit before the last one adds to the value of the escape. -/
theorem unescapeFrom_hex_digit {c : Char} {d : Nat} (hd : hexDigit? c = some d)
    (high : Option Nat) (left value : Nat) (cs : List Char) :
    unescapeFrom (.hex high (left + 2) value) (c :: cs) =
      unescapeFrom (.hex high (left + 1) (value * 16 + d)) cs := by
  rw [unescapeFrom, hd]
  rfl

/-- The last hexadecimal digit completes the escape. -/
theorem unescapeFrom_hex_last {c : Char} {d : Nat} (hd : hexDigit? c = some d)
    (high : Option Nat) (value : Nat) (cs : List Char) :
    unescapeFrom (.hex high 1 value) (c :: cs) =
      match closeHex high (value * 16 + d) with
      | some (.inl x) => pushChar x (unescapeFrom .plain cs)
      | some (.inr hi) => unescapeFrom (.lowSlash hi) cs
      | none => none := by
  rw [unescapeFrom, hd]
  rfl

/-- The four digits {lit}`hex4` writes for a code unit complete an escape of that code
unit. -/
theorem unescapeFrom_hex4 {n : Nat} (high : Option Nat) (h : n < 0x10000) (cs : List Char) :
    unescapeFrom (.hex high 4 0) ((hex4 n).data ++ cs) =
      match closeHex high n with
      | some (.inl x) => pushChar x (unescapeFrom .plain cs)
      | some (.inr hi) => unescapeFrom (.lowSlash hi) cs
      | none => none := by
  have hd : ∀ k, hexDigit? (Nat.digitChar (n / k % 16)) = some (n / k % 16) := fun _ =>
    hexDigit?_digitChar (Nat.mod_lt _ (by decide))
  have hfirst : ((0 * 16 + n / 4096 % 16) * 16 + n / 256 % 16) * 16 + n / 16 % 16 = n / 16 := by
    omega
  have hlast : n / 16 * 16 + n % 16 = n := by omega
  rw [hex4_data, List.cons_append, List.cons_append, List.cons_append, List.cons_append,
    List.nil_append, unescapeFrom_hex_digit (hd 4096), unescapeFrom_hex_digit (hd 256),
    unescapeFrom_hex_digit (hd 16), hfirst, unescapeFrom_hex_last (by simpa using hd 1), hlast]

/-! ### Code units -/

/-- A character of the basic plane is its own code unit. -/
theorem closeHex_plane {c : Char} (h : c.toNat < 0x10000) :
    closeHex none c.toNat = some (.inl c) := by
  have hc : c.toNat < 0xd800 ∨ (0xdfff < c.toNat ∧ c.toNat < 0x110000) := c.valid
  rw [closeHex, if_neg (by omega), if_neg (by omega), Char.ofNat_toNat]

/-- A high surrogate waits for its low half. -/
theorem closeHex_high {hi : Nat} (h : 0xd800 ≤ hi ∧ hi < 0xdc00) :
    closeHex none hi = some (.inr hi) := by
  rw [closeHex, if_pos h]

/-- A low surrogate after a high one completes the character the pair encodes. -/
theorem closeHex_low {hi lo : Nat} (h : 0xdc00 ≤ lo ∧ lo < 0xe000) :
    closeHex (some hi) lo =
      some (.inl (Char.ofNat (0x10000 + (hi - 0xd800) * 0x400 + (lo - 0xdc00)))) := by
  rw [closeHex, if_pos h]

/-- The two code units {lit}`json.dumps` writes for a code point beyond the basic plane
are a high and a low surrogate, and together they spell that code point again. -/
theorem surrogate_halves {n : Nat} (h : 0x10000 ≤ n) (h' : n < 0x110000) :
    (0xd800 ≤ 0xd800 + (n - 0x10000) / 0x400 ∧ 0xd800 + (n - 0x10000) / 0x400 < 0xdc00) ∧
      (0xdc00 ≤ 0xdc00 + (n - 0x10000) % 0x400 ∧ 0xdc00 + (n - 0x10000) % 0x400 < 0xe000) ∧
      0x10000 + (0xd800 + (n - 0x10000) / 0x400 - 0xd800) * 0x400 +
        (0xdc00 + (n - 0x10000) % 0x400 - 0xdc00) = n := by
  omega

/-! ### Round trips -/

/-- The reader decodes the escape {lit}`json.dumps` writes for a character back to that
character, whatever text follows. -/
theorem unescape_jsonEscape (c : Char) (rest : List Char) :
    unescape ((jsonEscape c).data ++ rest) = pushChar c (unescape rest) := by
  have hc : c.toNat < 0xd800 ∨ (0xdfff < c.toNat ∧ c.toNat < 0x110000) := c.valid
  have hofNat : ∀ n, c.toNat = n → c = Char.ofNat n := fun n h => by rw [← h, Char.ofNat_toNat]
  unfold unescape jsonEscape
  split
  -- the seven characters with a one-letter escape
  all_goals try (obtain rfl := hofNat _ ‹_›; rfl)
  rename_i h34 h92 _ _ _ _ _
  split_ifs with hprint hplane
  · -- printed as itself
    have hq : c ≠ '"' := fun h => h34 (by rw [h]; rfl)
    have hb : c ≠ '\\' := fun h => h92 (by rw [h]; rfl)
    exact unescapeFrom_plain hq hb hprint.1 rest
  · -- a {lit}`\u` escape of the character's own code unit
    show unescapeFrom .plain ('\\' :: 'u' :: ((hex4 c.toNat).data ++ rest)) = _
    rw [unescapeFrom_plain_backslash, unescapeFrom_escape_u, unescapeFrom_hex4 none hplane,
      closeHex_plane hplane]
  · -- a surrogate pair
    have hmax : c.toNat < 0x110000 :=
      hc.elim (fun h => absurd (Nat.lt_trans h (by decide)) hplane) And.right
    obtain ⟨hhi, hlo, hcode⟩ := surrogate_halves (Nat.not_lt.mp hplane) hmax
    show unescapeFrom .plain ('\\' :: 'u' :: ((hex4 (0xd800 + (c.toNat - 0x10000) / 0x400)).data ++
      '\\' :: 'u' :: ((hex4 (0xdc00 + (c.toNat - 0x10000) % 0x400)).data ++ rest))) = _
    rw [unescapeFrom_plain_backslash, unescapeFrom_escape_u,
      unescapeFrom_hex4 none (Nat.lt_of_lt_of_le hhi.2 (by decide)), closeHex_high hhi]
    dsimp only
    rw [unescapeFrom_lowSlash, unescapeFrom_lowU,
      unescapeFrom_hex4 _ (Nat.lt_of_lt_of_le hlo.2 (by decide)), closeHex_low hlo, hcode,
      Char.ofNat_toNat]

/-- The escaped characters of a string body, then its closing quote, read back as the
characters, and the reader stops right after the quote. -/
theorem unescape_escaped (cs rest : List Char) :
    unescape ((cs.map fun c => (jsonEscape c).data).flatten ++ '"' :: rest) = some (cs, rest) := by
  induction cs with
  | nil => rfl
  | cons c cs ih =>
    rw [List.map_cons, List.flatten_cons, List.append_assoc, unescape_jsonEscape, ih]
    rfl

/-- A JSON string: its opening quote, its body, its closing quote. -/
def readString : List Char → Option (String × List Char)
  | '"' :: cs => (unescape cs).map fun p => (⟨p.1⟩, p.2)
  | _ => none

/-- A string written by {lit}`json.dumps` reads back as itself, and the reader stops
right after its closing quote. -/
theorem readString_jsonString (s : String) (rest : List Char) :
    readString ((jsonString s).data ++ rest) = some (s, rest) := by
  have hbody := unescape_escaped s.data rest
  simp only [jsonString, String.data_append, String.data_join, List.map_map, List.append_assoc,
    List.singleton_append, Function.comp_def]
  show (unescape (_ ++ '"' :: rest)).map _ = _
  rw [hbody]
  rfl

example : readString "\"\\ud83d\\ude00!\"".data = some ("😀!", []) := by decide

/-! ## The build record -/

/-- The text after a literal prefix, if the text starts with it. -/
def readLit (lit cs : List Char) : Option (List Char) := cs.dropPrefix? lit

/-- A literal reads past itself. -/
@[simp]
theorem readLit_append (lit rest : List Char) : readLit lit (lit ++ rest) = some rest :=
  List.dropPrefix?_append_of_beq rest (beq_self_eq_true _)

/-- A literal that is the whole text reads to the empty rest. -/
@[simp]
theorem readLit_self (lit : List Char) : readLit lit lit = some [] := by
  simpa using readLit_append lit []

/-- A JSON boolean. -/
def readBool (cs : List Char) : Option (Bool × List Char) :=
  match readLit "true".data cs with
  | some rest => some (true, rest)
  | none => (readLit "false".data cs).map fun rest => (false, rest)

/-- The two booleans {lit}`json.dumps` writes read back as themselves. -/
theorem readBool_dumps (b : Bool) (rest : List Char) :
    readBool ((if b then "true" else "false").data ++ rest) = some (b, rest) := by
  cases b
  · have hfalse : readLit "true".data ("false".data ++ rest) = none := rfl
    rw [if_neg Bool.false_ne_true, readBool, hfalse, readLit_append]
    rfl
  · rw [if_pos rfl, readBool, readLit_append]

/-- The values a build record holds. -/
inductive JsonValue where
  | str (s : String)
  | bool (b : Bool)
  deriving DecidableEq, Repr

/-- How {lit}`json.dumps` writes a value. -/
def JsonValue.dumps : JsonValue → String
  | .str s => jsonString s
  | .bool b => if b then "true" else "false"

/-- A JSON value: a string if it opens with a quote, a boolean otherwise. -/
def readValue (cs : List Char) : Option (JsonValue × List Char) :=
  if cs.head? = some '"' then (readString cs).map fun p => (.str p.1, p.2)
  else (readBool cs).map fun p => (.bool p.1, p.2)

/-- A value {lit}`json.dumps` writes reads back as itself. -/
theorem readValue_dumps (v : JsonValue) (rest : List Char) :
    readValue (v.dumps.data ++ rest) = some (v, rest) := by
  cases v with
  | str s =>
    rw [readValue, if_pos (by simp [JsonValue.dumps, jsonString]), JsonValue.dumps,
      readString_jsonString]
    rfl
  | bool b =>
    rw [readValue, if_neg (by cases b <;> simp [JsonValue.dumps]), JsonValue.dumps, readBool_dumps]
    rfl

/-- How {lit}`json.dumps(indent=2)` writes one item of a dict. -/
def dumpsItem (item : String × JsonValue) : String :=
  "  " ++ jsonString item.1 ++ ": " ++ item.2.dumps

/-- One item as {lit}`indent=2` lays it out: two spaces, the key, a colon and a space,
and the value. -/
def readItem (key : String) (cs : List Char) : Option (JsonValue × List Char) := do
  let cs ← readLit "  ".data cs
  let (k, cs) ← readString cs
  if k = key then
    let cs ← readLit ": ".data cs
    readValue cs
  else none

/-- An item {lit}`json.dumps` writes reads back under its own key. -/
theorem readItem_dumpsItem (item : String × JsonValue) (rest : List Char) :
    readItem item.1 ((dumpsItem item).data ++ rest) = some (item.2, rest) := by
  simp only [readItem, dumpsItem, String.data_append, List.append_assoc, readLit_append,
    Option.bind_eq_bind, Option.some_bind, readString_jsonString, ite_true, readValue_dumps]

/-- The items of a dict body for the given keys, in order, separated by {lit}`,\n`. -/
def readItems : List String → List Char → Option (List JsonValue × List Char)
  | [], cs => some ([], cs)
  | [key], cs => (readItem key cs).map fun p => ([p.1], p.2)
  | key :: keys, cs => do
    let (v, cs) ← readItem key cs
    let cs ← readLit ",\n".data cs
    let (vs, cs) ← readItems keys cs
    pure (v :: vs, cs)

/-- The items {lit}`json.dumps` joins read back as their values, for their own keys. -/
theorem readItems_dumps (item : String × JsonValue) (items : List (String × JsonValue))
    (rest : List Char) :
    readItems ((item :: items).map Prod.fst)
        ((",\n".intercalate ((item :: items).map dumpsItem)).data ++ rest) =
      some ((item :: items).map Prod.snd, rest) := by
  induction items generalizing item with
  | nil =>
    simp only [List.map_cons, List.map_nil, readItems, String.intercalate,
      String.intercalate.go, readItem_dumpsItem, Option.map_some']
  | cons item' items ih =>
    simp only [List.map_cons, String.intercalate, intercalate_go_data, List.append_assoc] at ih ⊢
    simp only [readItems, List.map_cons, List.flatten_cons, List.append_assoc, readItem_dumpsItem,
      Option.bind_eq_bind, Option.some_bind, readLit_append, ih]
    rfl

/-- The keys of a build record, in the order {lit}`generate_build_info` builds the
dict. -/
def BuildInfo.keys : List String :=
  ["timestamp", "go_version", "git_commit", "git_branch", "git_dirty", "platform",
    "architecture"]

/-- The items of a build record. -/
def BuildInfo.items (info : BuildInfo) : List (String × JsonValue) :=
  [("timestamp", .str info.timestamp), ("go_version", .str info.goVersion),
    ("git_commit", .str info.gitCommit), ("git_branch", .str info.gitBranch),
    ("git_dirty", .bool info.gitDirty), ("platform", .str info.platform),
    ("architecture", .str info.architecture)]

/-- The record seven values stand for, if they have the types of its fields. -/
def BuildInfo.ofValues : List JsonValue → Option BuildInfo
  | [.str timestamp, .str goVersion, .str gitCommit, .str gitBranch, .bool gitDirty,
      .str platform, .str architecture] =>
    some { timestamp, goVersion, gitCommit, gitBranch, gitDirty, platform, architecture }
  | _ => none

/-- The text of a build record is its items joined as {lit}`json.dumps(indent=2)` joins
them. -/
theorem BuildInfo.dumps_eq (info : BuildInfo) :
    info.dumps = "\x7b\n" ++ ",\n".intercalate (info.items.map dumpsItem) ++ "\n\x7d" := rfl

/-- {lit}`json.loads` of a build record in the layout {lit}`json.dumps(indent=2)` gives
it: the seven keys in order, each with a value of its field's type. -/
def BuildInfo.parse (text : String) : Option BuildInfo := do
  let cs ← readLit "\x7b\n".data text.data
  let (values, cs) ← readItems BuildInfo.keys cs
  let cs ← readLit "\n\x7d".data cs
  if cs = [] then BuildInfo.ofValues values else none

/-- Every build record reads back from the text {lit}`json.dumps` writes for it. -/
theorem BuildInfo.parse_dumps (info : BuildInfo) : BuildInfo.parse info.dumps = some info := by
  have hkeys : BuildInfo.keys = info.items.map Prod.fst := rfl
  have hvalues : BuildInfo.ofValues (info.items.map Prod.snd) = some info := rfl
  have hitems : readItems (info.items.map Prod.fst)
      ((",\n".intercalate (info.items.map dumpsItem)).data ++ ['\n', '\x7d']) =
      some (info.items.map Prod.snd, ['\n', '\x7d']) :=
    readItems_dumps ("timestamp", .str info.timestamp) info.items.tail _
  rw [BuildInfo.parse, BuildInfo.dumps_eq, hkeys]
  simp only [String.data_append, List.append_assoc, readLit_append, Option.bind_eq_bind,
    Option.some_bind, hitems, readLit_self, ite_true, hvalues]

/-! ## The characters of the record

{lit}`json.dumps` escapes every character outside printable ASCII, so the text of the
record holds only printable ASCII and the line feeds of its layout, whatever the tools
printed: every locale encoding writes it as the same bytes, one per character, and it
holds no carriage return that a reader in text mode could take for a newline. -/

/-- A character the text of a build record may hold: printable ASCII or a line feed. -/
def plainChar (c : Char) : Prop := c = '\n' ∨ 0x20 ≤ c.toNat ∧ c.toNat ≤ 0x7e

instance : DecidablePred plainChar := fun _ => inferInstanceAs (Decidable (_ ∨ _))

/-- A plain character is ASCII. -/
theorem plainChar.ascii {c : Char} (h : plainChar c) : c.toNat < 128 := by
  rcases h with rfl | h
  · decide
  · omega

/-- A plain character is no carriage return. -/
theorem plainChar.ne_cr {c : Char} (h : plainChar c) : c ≠ '\r' := by
  rintro rfl
  revert h
  decide

/-- Each of the sixteen hexadecimal digits is plain. -/
theorem digitChar_plain {d : Nat} (h : d < 16) : plainChar (Nat.digitChar d) := by
  have hall : ∀ d < 16, plainChar (Nat.digitChar d) := by decide
  exact hall d h

/-- The four digits of a code unit are plain. -/
theorem hex4_plain (n : Nat) : ∀ c ∈ (hex4 n).data, plainChar c := by
  simp only [hex4_data, List.mem_cons, List.mem_singleton, List.not_mem_nil, or_false]
  rintro c (rfl | rfl | rfl | rfl) <;> exact digitChar_plain (Nat.mod_lt _ (by decide))

/-- The escape of every character is plain. -/
theorem jsonEscape_plain (c : Char) : ∀ d ∈ (jsonEscape c).data, plainChar d := by
  unfold jsonEscape
  split
  any_goals decide
  next =>
    split_ifs with hprint hbmp
    · -- printable ASCII stands for itself
      intro d hd
      change d ∈ [c] at hd
      rw [List.mem_singleton] at hd
      subst hd
      exact .inr hprint
    · simp only [String.data_append, List.mem_append]
      rintro d (hd | hd)
      · revert d
        decide
      · exact hex4_plain _ d hd
    · simp only [String.data_append, List.mem_append]
      rintro d (((hd | hd) | hd) | hd)
      · revert d
        decide
      · exact hex4_plain _ d hd
      · revert d
        decide
      · exact hex4_plain _ d hd

/-- A JSON string is plain. -/
theorem jsonString_plain (s : String) : ∀ c ∈ (jsonString s).data, plainChar c := by
  simp only [jsonString, String.data_append, String.data_join, List.mem_append, List.mem_flatten,
    List.mem_map]
  rintro c ((hc | ⟨_, ⟨_, ⟨d, -, rfl⟩, rfl⟩, hc⟩) | hc)
  · revert c
    decide
  · exact jsonEscape_plain d c hc
  · revert c
    decide

/-- Texts joined by a separator keep a property of characters that the separator and
each of them have. -/
theorem intercalate_forall {Q : Char → Prop} {sep : String} {l : List String}
    (hsep : ∀ c ∈ sep.data, Q c) (hl : ∀ s ∈ l, ∀ c ∈ s.data, Q c) :
    ∀ c ∈ (sep.intercalate l).data, Q c := by
  cases l with
  | nil => simp [String.intercalate]
  | cons x xs =>
    simp only [String.intercalate, intercalate_go_data, List.mem_append, List.mem_flatten,
      List.mem_map]
    rintro c (hc | ⟨_, ⟨s, hs, rfl⟩, hc⟩)
    · exact hl x (List.mem_cons_self _ _) c hc
    · rcases List.mem_append.mp hc with hc | hc
      · exact hsep c hc
      · exact hl s (List.mem_cons_of_mem _ hs) c hc

/-- The text of every build record is plain. -/
theorem BuildInfo.dumps_plain (info : BuildInfo) : ∀ c ∈ info.dumps.data, plainChar c := by
  have hitem : ∀ item ∈ info.items, ∀ c ∈ (dumpsItem item).data, plainChar c := by
    intro ⟨key, value⟩ _ c hc
    simp only [dumpsItem, String.data_append, List.mem_append] at hc
    rcases hc with ((hc | hc) | hc) | hc
    · revert c
      decide
    · exact jsonString_plain key c hc
    · revert c
      decide
    · cases value with
      | str s => exact jsonString_plain s c hc
      | bool b => cases b <;> revert c <;> decide
  rw [BuildInfo.dumps_eq]
  simp only [String.data_append, List.mem_append]
  rintro c ((hc | hc) | hc)
  · revert c
    decide
  · refine intercalate_forall (by decide) (fun s hs => ?_) c hc
    obtain ⟨item, hmem, rfl⟩ := List.mem_map.mp hs
    exact hitem item hmem
  · revert c
    decide

/-- The text of a build record holds no carriage return. -/
theorem BuildInfo.cr_not_mem_dumps (info : BuildInfo) : '\r' ∉ info.dumps.data :=
  fun h => (info.dumps_plain _ h).ne_cr rfl

/-- What {lit}`write_text` makes of a build record is ASCII on every machine. -/
theorem written_dumps_ascii (h : Host) (info : BuildInfo) :
    ∀ c ∈ (h.written info.dumps).data, c.toNat < 128 := fun c hc =>
  (mem_written hc).elim (fun hc => (info.dumps_plain c hc).ascii) fun hc => by rw [hc]; decide

/-- An ASCII text has one byte per character. -/
theorem utf8Len_of_ascii {cs : List Char} (h : ∀ c ∈ cs, c.toNat < 128) :
    String.utf8Len cs = cs.length := by
  induction cs with
  | nil => rfl
  | cons c cs ih =>
    have hc : c.val ≤ 0x7F := by
      rw [UInt32.le_def, BitVec.le_def]
      simpa [Char.toNat] using Nat.lt_succ_iff.mp (h c (List.mem_cons_self _ _))
    rw [String.utf8Len_cons, ih fun d hd => h d (List.mem_cons_of_mem _ hd)]
    simp [Char.utf8Size, hc]

/-- An ASCII text has one byte per character. -/
theorem utf8ByteSize_of_ascii {s : String} (h : ∀ c ∈ s.data, c.toNat < 128) :
    s.utf8ByteSize = s.length := by
  obtain ⟨cs⟩ := s
  exact utf8Len_of_ascii h

/-! ## What {lit}`generate_build_info` leaves behind -/

/-- {lit}`generate_build_info` runs on the machine it starts on. -/
theorem generateBuildInfo_host {r : BuildRunner} {w w' : World} {info : BuildInfo}
    (h : generateBuildInfo r w = .ok info w') : w'.host = w.host := by
  obtain ⟨_, -, -, hhost, -⟩ := (generateBuildInfo_confined allows_true r fun _ _ => trivial).run w
  rwa [h] at hhost

/-- A run of {lit}`generate_build_info` that returns ends by writing the JSON text of
the record it returns to {lit}`build/build-info.json`. -/
theorem generateBuildInfo_writes {r : BuildRunner} {w w' : World} {info : BuildInfo}
    (h : generateBuildInfo r w = .ok info w') :
    ∃ w₀ : World, w' = (w₀.log (.write (r.buildDir / "build-info.json") info.dumps)).modifyFS
      fun fs => fs.put (r.buildDir / "build-info.json")
        (some (.file (w₀.host.written info.dumps).utf8ByteSize)) := by
  simp only [generateBuildInfo] at h
  iterate 4
    obtain ⟨⟨_, _, _⟩, _, -, h⟩ := bind_eq_ok h
    dsimp only at h
  iterate 3 obtain ⟨_, _, -, h⟩ := bind_eq_ok h
  obtain ⟨⟨⟩, _, hw, h⟩ := bind_eq_ok h
  rcases writeText_cases (r.buildDir / "build-info.json") _ _ with ⟨e, -, he⟩ | hok
  · rw [he] at hw
    cases hw
  · rw [hok] at hw
    cases hw
    cases h
    exact ⟨_, rfl⟩

/-- The record {lit}`generate_build_info` returns is the one it leaves on disk: its last
act is to write {lit}`build/build-info.json`, the file then has the size of that text
with the machine's line separators, and the text reads back as the returned record,
also when read from the file in text mode. -/
theorem generateBuildInfo_record {r : BuildRunner} {w w' : World} {info : BuildInfo}
    (h : generateBuildInfo r w = .ok info w') :
    ∃ text, w'.trace.getLast? = some (.write (r.buildDir / "build-info.json") text) ∧
      w'.fs (r.buildDir / "build-info.json") = some (.file (w.host.written text).utf8ByteSize) ∧
      BuildInfo.parse text = some info ∧
      BuildInfo.parse ⟨translateNewlines (w.host.written text).data⟩ = some info := by
  have hhost := generateBuildInfo_host h
  obtain ⟨w₀, rfl⟩ := generateBuildInfo_writes h
  replace hhost : w₀.host = w.host := hhost
  refine ⟨info.dumps, by simp, by simp [hhost], BuildInfo.parse_dumps info, ?_⟩
  rw [translateNewlines_written _ info.cr_not_mem_dumps]
  exact BuildInfo.parse_dumps info

/-- A Windows machine running the script from {lit}`/src` with the given tools. -/
def windowsHost (tools : Tools) : Host := { linuxHost tools with system := "Windows" }

/-- On a Windows checkout whose tools all succeed silently, {lit}`generate_build_info`
returns, and its record reads back from the file it wrote with {lit}`\r\n`. -/
theorem generateBuildInfo_record_checkout :
    ∃ info w', generateBuildInfo srcRunner ⟨windowsHost silentTools, fsOf [⟨[]⟩, ⟨["src"]⟩,
        ⟨["src", "build"]⟩] [], 0, []⟩ = .ok info w' ∧
      ∃ text, w'.trace.getLast? = some (.write (srcRunner.buildDir / "build-info.json") text) ∧
        w'.fs (srcRunner.buildDir / "build-info.json") =
          some (.file ((windowsHost silentTools).written text).utf8ByteSize) ∧
        BuildInfo.parse text = some info ∧
        BuildInfo.parse ⟨translateNewlines ((windowsHost silentTools).written text).data⟩ =
          some info := by
  obtain ⟨info, w', h⟩ : ∃ info w', generateBuildInfo srcRunner ⟨windowsHost silentTools,
      fsOf [⟨[]⟩, ⟨["src"]⟩, ⟨["src", "build"]⟩] [], 0, []⟩ = .ok info w' := ⟨_, _, rfl⟩
  exact ⟨info, w', h, generateBuildInfo_record h⟩

/-- Whatever the tools print, the file {lit}`generate_build_info` writes is ASCII on
every machine, and has as many bytes as characters. -/
theorem generateBuildInfo_ascii {r : BuildRunner} {w w' : World} {info : BuildInfo}
    (h : generateBuildInfo r w = .ok info w') :
    ∃ text, w'.trace.getLast? = some (.write (r.buildDir / "build-info.json") text) ∧
      (∀ c ∈ (w.host.written text).data, c.toNat < 128) ∧
      w'.fs (r.buildDir / "build-info.json") = some (.file (w.host.written text).length) := by
  have hhost := generateBuildInfo_host h
  obtain ⟨w₀, rfl⟩ := generateBuildInfo_writes h
  replace hhost : w₀.host = w.host := hhost
  have hascii := written_dumps_ascii w.host info
  exact ⟨info.dumps, by simp, hascii, by simp [hhost, utf8ByteSize_of_ascii hascii]⟩

/-- Strict Latin-1 decoding: every byte is a character. -/
def latin1Codec : Codec := fun b => .ok ⟨b.map fun x => Char.ofNat x.toNat⟩

/-- Tools that all succeed silently, except that git names the current branch
{lit}`café` in Latin-1. -/
def accentedBranch : Tools := fun _ l fs =>
  (if l.argv = ["git", "branch", "--show-current"] then .exited 0 [99, 97, 102, 233, 10] []
    else .exited 0 [] [], fs)

/-- On a Latin-1 machine whose branch is {lit}`café`, the record keeps the name and
its file is still ASCII. -/
theorem generateBuildInfo_ascii_accented :
    ∃ info w', generateBuildInfo srcRunner ⟨{ linuxHost accentedBranch with codec := latin1Codec },
        fsOf [⟨[]⟩, ⟨["src"]⟩, ⟨["src", "build"]⟩] [], 0, []⟩ = .ok info w' ∧
      info.gitBranch = "café" ∧
      ∃ text, w'.trace.getLast? = some (.write (srcRunner.buildDir / "build-info.json") text) ∧
        (∀ c ∈ ({ linuxHost accentedBranch with codec := latin1Codec }.written text).data,
          c.toNat < 128) ∧
        w'.fs (srcRunner.buildDir / "build-info.json") =
          some (.file ({ linuxHost accentedBranch with codec := latin1Codec }.written text).length) := by
  obtain ⟨w', h⟩ : ∃ w', generateBuildInfo srcRunner
      ⟨{ linuxHost accentedBranch with codec := latin1Codec },
        fsOf [⟨[]⟩, ⟨["src"]⟩, ⟨["src", "build"]⟩] [], 0, []⟩ =
      .ok ⟨"2026-01-01 00:00:00 UTC", "", "", "café", false, "Linux", "x86_64"⟩ w' := ⟨_, rfl⟩
  exact ⟨_, w', h, rfl, generateBuildInfo_ascii h⟩

end Build
end Shoal
