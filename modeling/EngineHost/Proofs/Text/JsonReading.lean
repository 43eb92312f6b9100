import EngineHost.Proofs.Text.Decimal
import EngineHost.Text.JsonText
import Mathlib.Data.List.Forall2
/-
A reader of JSON, for texts that others write.  It takes blanks between tokens,
every escape in a string, members in any order, and nesting up to a limit.
Numbers have to be whole.  What the pieces of compact JSON write, it reads back.
-/
namespace EngineHost
namespace Text

inductive Json where
  | null
  | flag (value : Bool)
  | number (value : Int)
  | string (text : String)
  | array (items : List Json)
  | object (members : List (String × Json))

namespace JsonReading

/-- Takes something from the front of a text and hands on the rest. -/
abbrev Reader (α : Type) := List Char → Option (α × List Char)

def isBlank (c : Char) : Bool := c = ' ' || c = '\n' || c = '\r' || c = '\t'

def blanks (cs : List Char) : List Char := cs.dropWhile isBlank

/-! ## Strings -/

/-- The code unit that four hexadecimal digits stand for. -/
def unit? (a b c d : Char) : Option Nat := do
  let a ← Hex.value? a
  let b ← Hex.value? b
  let c ← Hex.value? c
  let d ← Hex.value? d
  return ((a * 16 + b) * 16 + c) * 16 + d

/-- The character of a two-letter escape. -/
def short? (c : Char) : Option Char :=
  if c = '"' ∨ c = '\\' ∨ c = '/' then some c
  else if c = 'b' then some (Char.ofNat 0x08)
  else if c = 'f' then some (Char.ofNat 0x0C)
  else if c = 'n' then some '\n'
  else if c = 'r' then some '\r'
  else if c = 't' then some '\t'
  else none

/-- The characters of a string, up to the closing quote.  A character beyond the
first plane is escaped as a pair of halves, and a half on its own is refused. -/
def body : Reader (List Char)
  | [] => none
  | '"' :: rest => some ([], rest)
  | '\\' :: 'u' :: a :: b :: c :: d :: rest =>
    match unit? a b c d with
    | none => none
    | some n =>
      if 0xD800 ≤ n ∧ n < 0xDC00 then
        match rest with
        | '\\' :: 'u' :: a :: b :: c :: d :: rest =>
          match unit? a b c d with
          | none => none
          | some m =>
            if 0xDC00 ≤ m ∧ m < 0xE000 then
              let code := 0x10000 + (n - 0xD800) * 0x400 + (m - 0xDC00)
              (body rest).map fun (cs, rest) => (Char.ofNat code :: cs, rest)
            else none
        | _ => none
      else if 0xDC00 ≤ n ∧ n < 0xE000 then none
      else (body rest).map fun (cs, rest) => (Char.ofNat n :: cs, rest)
  | '\\' :: e :: rest =>
    match short? e with
    | some c => (body rest).map fun (cs, rest) => (c :: cs, rest)
    | none => none
  | c :: rest =>
    if c = '\\' ∨ c.toNat < 0x20 then none
    else (body rest).map fun (cs, rest) => (c :: cs, rest)

/-! ## Numbers -/

/-- Digits without a leading zero, unless there is nothing else. -/
def natural (cs : List Char) : Option (Nat × List Char) :=
  let digits := cs.takeWhile Char.isDigit
  if digits.head? = some '0' ∧ digits.length ≠ 1 then none
  else (Decimal.digits? digits).map fun n => (n, cs.dropWhile Char.isDigit)

def number : Reader Int
  | '-' :: rest => (natural rest).map fun (n, rest) => (-(n : Int), rest)
  | cs => (natural cs).map fun (n, rest) => ((n : Int), rest)

/-! ## Values -/

section

variable {α : Type} (item : Reader α) (close : Char)

/-- One item or more with commas between them, and what closes them. -/
def items : Nat → Reader (List α)
  | 0, _ => none
  | fuel + 1, cs =>
    match item cs with
    | none => none
    | some (x, rest) =>
      match blanks rest with
      | [] => none
      | c :: rest =>
        if c = ',' then (items fuel rest).map fun (xs, rest) => (x :: xs, rest)
        else if c = close then some ([x], rest)
        else none

/-- Any number of items.  There are no more of them than characters. -/
def sequence (cs : List Char) : Option (List α × List Char) :=
  match blanks cs with
  | [] => none
  | c :: rest => if c = close then some ([], rest) else items item close cs.length cs

/-- A member of an object. -/
def member (cs : List Char) : Option ((String × α) × List Char) :=
  match blanks cs with
  | '"' :: rest =>
    match body rest with
    | none => none
    | some (name, rest) =>
      match blanks rest with
      | ':' :: rest => (item rest).map fun (x, rest) => ((String.ofList name, x), rest)
      | _ => none
  | _ => none

end

/-- A value that is nested less deep than `depth`. -/
def value : Nat → Reader Json
  | 0, _ => none
  | depth + 1, cs =>
    match blanks cs with
    | 'n' :: 'u' :: 'l' :: 'l' :: rest => some (.null, rest)
    | 't' :: 'r' :: 'u' :: 'e' :: rest => some (.flag true, rest)
    | 'f' :: 'a' :: 'l' :: 's' :: 'e' :: rest => some (.flag false, rest)
    | '"' :: rest => (body rest).map fun (text, rest) => (.string (String.ofList text), rest)
    | '[' :: rest => (sequence (value depth) ']' rest).map fun (xs, rest) => (.array xs, rest)
    | '\x7b' :: rest =>
      (sequence (member (value depth)) '\x7d' rest).map fun (xs, rest) => (.object xs, rest)
    | cs => (number cs).map fun (n, rest) => (.number n, rest)

open JsonText

/-! ## What is written is read back -/

/-- The rest of a text where a number before it is over. -/
def Ended (rest : List Char) : Prop := ∀ c ∈ rest.head?, c.isDigit = false

/-- A character that a value can start with. -/
def Opens (c : Char) : Prop := isBlank c = false ∧ c ≠ ']' ∧ c ≠ '\x7d'

/-- A text without control characters that a reader takes for this, whatever
comes after it. -/
structure Reads {α : Type} (r : Reader α) (text : String) (x : α) : Prop where
  opens : ∃ c cs, text.toList = c :: cs ∧ Opens c
  clean : ∀ c ∈ text.toList, 0x20 ≤ c.toNat
  reads : ∀ rest, Ended rest → r (text.toList ++ rest) = some (x, rest)

theorem Ended.cons {c : Char} {rest : List Char} (h : c.isDigit = false) : Ended (c :: rest) := by
  intro d hd
  cases hd
  exact h

theorem blanks_cons {c : Char} {rest : List Char} (h : isBlank c = false) :
    blanks (c :: rest) = c :: rest := by
  rw [blanks, List.dropWhile_cons_of_neg (by rw [h]; decide)]

/-! ### Strings -/

theorem clean_digit : ∀ n < 16, 0x20 ≤ (Hex.digit n).toNat := by decide

theorem clean_escape (c : Char) : ∀ d ∈ escape c, 0x20 ≤ d.toNat := by
  unfold escape
  split_ifs with hquote hback hb hf hn hr ht hlow
  on_goal 8 =>
    have hhigh := clean_digit (c.toNat / 16) (by omega)
    have hlow := clean_digit (c.toNat % 16) (by omega)
    simp [hhigh, hlow]
  on_goal 8 => exact List.forall_mem_singleton.2 (by omega)
  all_goals exact List.forall_mem_cons.2 ⟨by decide, List.forall_mem_singleton.2 (by decide)⟩

theorem unit?_escape {n : Nat} (h : n < 0x20) :
    unit? '0' '0' (Hex.digit (n / 16)) (Hex.digit (n % 16)) = some n := by
  have hzero : Hex.value? '0' = some 0 := rfl
  unfold unit?
  rw [hzero, Hex.value?_digit _ (by omega), Hex.value?_digit _ (by omega)]
  show some _ = some n
  rw [Option.some.injEq]
  omega

/-- The reader takes an escape for the character that is escaped. -/
theorem body_escape (c : Char) (rest : List Char) :
    body (escape c ++ rest) = (body rest).map fun (cs, rest) => (c :: cs, rest) := by
  have hchar {n : Nat} (h : c.toNat = n) : c = Char.ofNat n := by rw [← h, Char.ofNat_toNat]
  unfold escape
  split_ifs with hquote hback hb hf hn hr ht hlow
  · subst hquote; rfl
  · subst hback; rfl
  · rw [hchar hb]; rfl
  · rw [hchar hf]; rfl
  · subst hn; rfl
  · subst hr; rfl
  · subst ht; rfl
  · show body ('\\' :: 'u' :: '0' :: '0' :: Hex.digit (c.toNat / 16) ::
      Hex.digit (c.toNat % 16) :: rest) = _
    rw [body, unit?_escape hlow]
    dsimp only
    rw [if_neg (by omega), if_neg (by omega), Char.ofNat_toNat]
  · show body (c :: rest) = _
    rw [body, if_neg]
    all_goals simp_all

theorem body_string (cs rest : List Char) :
    body (cs.flatMap escape ++ '"' :: rest) = some (cs, rest) := by
  induction cs with
  | nil => rfl
  | cons c cs ih => rw [List.flatMap_cons, List.append_assoc, body_escape, ih, Option.map_some]

/-! ### Numbers -/

/-- No digit of a number is a zero in front, unless the number is zero. -/
theorem head?_toDigits {n : Nat} (h : (Nat.toDigits 10 n).head? = some '0') : n = 0 := by
  induction n using Nat.strongRecOn with
  | ind n ih =>
    by_cases hn : n < 10
    case pos =>
      have hdigit : ∀ d < 10, d.digitChar = '0' → d = 0 := by decide
      rw [Nat.toDigits_of_lt_base hn, List.head?_cons, Option.some.injEq] at h
      exact hdigit n hn h
    case neg =>
      obtain ⟨c, cs, hcs⟩ :=
        List.exists_cons_of_ne_nil (Nat.toDigits_ne_nil (b := 10) (n := n / 10))
      rw [Nat.toDigits_of_base_le (by decide) (by omega), hcs] at h
      have hquotient := ih (n / 10) (by omega) (hcs ▸ h)
      omega

theorem natural_toDigits (n : Nat) {rest : List Char} (hrest : Ended rest) :
    natural (Nat.toDigits 10 n ++ rest) = some (n, rest) := by
  have hdigits := (Decimal.Digits.toDigits n).isDigit
  have hover : rest.takeWhile Char.isDigit = [] ∧ rest.dropWhile Char.isDigit = rest := by
    cases rest with
    | nil => exact ⟨rfl, rfl⟩
    | cons c rest =>
      have hc : ¬ c.isDigit = true := by rw [hrest c rfl]; decide
      exact ⟨List.takeWhile_cons_of_neg hc, List.dropWhile_cons_of_neg hc⟩
  have hlead : ¬ ((Nat.toDigits 10 n).head? = some '0' ∧ (Nat.toDigits 10 n).length ≠ 1) := by
    intro h
    obtain rfl := head?_toDigits h.1
    exact h.2 rfl
  unfold natural
  rw [List.takeWhile_append_of_pos hdigits, hover.1, List.append_nil,
    List.dropWhile_append_of_pos hdigits, hover.2, if_neg hlead,
    Decimal.digits?_eq_some_iff.2 (.toDigits n), Option.map_some]

theorem number_of_isDigit {c : Char} (h : c.isDigit = true) (rest : List Char) :
    number (c :: rest) = (natural (c :: rest)).map fun (n, rest) => ((n : Int), rest) := by
  unfold number
  split
  case h_1 heq =>
    cases heq
    cases h
  case h_2 => rfl

theorem number_write (n : Int) {rest : List Char} (hrest : Ended rest) :
    number ((Decimal.write n).toList ++ rest) = some (n, rest) := by
  rw [Decimal.toList_write]
  split
  case isTrue h =>
    have hn : -(n.natAbs : Int) = n := by omega
    rw [List.cons_append, number, natural_toDigits _ hrest, Option.map_some]
    dsimp only
    rw [hn]
  case isFalse h =>
    obtain ⟨c, cs, hcs⟩ :=
      List.exists_cons_of_ne_nil (Nat.toDigits_ne_nil (b := 10) (n := n.natAbs))
    have hc : c.isDigit = true :=
      (Decimal.Digits.toDigits n.natAbs).isDigit c (hcs ▸ List.mem_cons_self)
    have hread := natural_toDigits n.natAbs hrest
    rw [hcs, List.cons_append] at hread ⊢
    have hn : (n.natAbs : Int) = n := by omega
    rw [number_of_isDigit hc, hread, Option.map_some]
    dsimp only
    rw [hn]

/-! ### Values -/

section

variable {α : Type} {r : Reader α} {close : Char}

theorem toList_intercalate_cons_cons (text next : String) (texts : List String) :
    (",".intercalate (text :: next :: texts)).toList =
      text.toList ++ ',' :: (",".intercalate (next :: texts)).toList := by
  rw [String.intercalate_cons_cons, String.toList_append, String.toList_append, List.append_assoc]
  rfl

/-- What closes a list is no part of it. -/
structure Closes (close : Char) : Prop where
  bracket : close = ']' ∨ close = '\x7d'
  notBlank : isBlank close = false
  notDigit : close.isDigit = false
  notComma : close ≠ ','

theorem items_intercalate (hclose : Closes close) {text : String} {texts : List String} {x : α}
    {xs : List α} (hx : Reads r text x) (hxs : List.Forall₂ (Reads r) texts xs) {fuel : Nat}
    (hfuel : (",".intercalate (text :: texts)).toList.length ≤ fuel) (rest : List Char) :
    items r close fuel ((",".intercalate (text :: texts)).toList ++ close :: rest) =
      some (x :: xs, rest) := by
  induction hxs generalizing text x fuel with
  | nil =>
    obtain ⟨c, cs, hcs, -⟩ := hx.opens
    rw [String.intercalate_singleton] at hfuel ⊢
    obtain ⟨fuel, rfl⟩ : ∃ k, fuel = k + 1 := by
      rw [hcs, List.length_cons] at hfuel
      exact ⟨fuel - 1, by omega⟩
    rw [items, hx.reads _ (.cons hclose.notDigit)]
    dsimp only
    rw [blanks_cons hclose.notBlank]
    dsimp only
    rw [if_neg hclose.notComma, if_pos rfl]
  | cons hnext hmore ih =>
    rw [toList_intercalate_cons_cons] at hfuel ⊢
    rw [List.length_append, List.length_cons] at hfuel
    obtain ⟨fuel, rfl⟩ : ∃ k, fuel = k + 1 := ⟨fuel - 1, by omega⟩
    rw [List.append_assoc, List.cons_append, items, hx.reads _ (.cons (by decide))]
    dsimp only
    rw [blanks_cons (by decide)]
    dsimp only
    rw [if_pos rfl, ih hnext (by omega), Option.map_some]

theorem opens_intercalate {text : String} {x : α} (hx : Reads r text x) (texts : List String) :
    ∃ c cs, (",".intercalate (text :: texts)).toList = c :: cs ∧ Opens c := by
  obtain ⟨c, cs, hcs, hopens⟩ := hx.opens
  cases texts with
  | nil => exact ⟨c, cs, by rw [String.intercalate_singleton, hcs], hopens⟩
  | cons next texts =>
    exact ⟨c, _, by rw [toList_intercalate_cons_cons, hcs, List.cons_append], hopens⟩

theorem sequence_intercalate (hclose : Closes close) {texts : List String} {xs : List α}
    (h : List.Forall₂ (Reads r) texts xs) (rest : List Char) :
    sequence r close ((",".intercalate texts).toList ++ close :: rest) = some (xs, rest) := by
  unfold sequence
  cases h with
  | nil =>
    show (match blanks (close :: rest) with
      | [] => none
      | c :: rest => if c = close then some ([], rest) else _) = _
    rw [blanks_cons hclose.notBlank]
    exact if_pos rfl
  | @cons text x texts xs hx hxs =>
    obtain ⟨c, cs, hcs, hsolid, hbracket, hbrace⟩ := opens_intercalate hx texts
    have hne : c ≠ close := by
      rcases hclose.bracket with rfl | rfl
      · exact hbracket
      · exact hbrace
    have hfuel : (",".intercalate (text :: texts)).toList.length ≤
        ((",".intercalate (text :: texts)).toList ++ close :: rest).length := by
      rw [List.length_append]
      omega
    have hread := items_intercalate hclose hx hxs hfuel rest
    rw [hcs, List.cons_append] at hread ⊢
    rw [blanks_cons hsolid]
    dsimp only
    rw [if_neg hne, hread]

theorem closes_bracket : Closes ']' := ⟨.inl rfl, rfl, rfl, by decide⟩

theorem closes_brace : Closes '\x7d' := ⟨.inr rfl, rfl, rfl, by decide⟩

theorem clean_intercalate {texts : List String} {xs : List α}
    (h : List.Forall₂ (Reads r) texts xs) : ∀ c ∈ (",".intercalate texts).toList, 0x20 ≤ c.toNat := by
  induction h with
  | nil => nofun
  | @cons text x texts xs hx hxs ih =>
    cases texts with
    | nil => rw [String.intercalate_singleton]; exact hx.clean
    | cons next texts =>
      rw [toList_intercalate_cons_cons]
      exact List.forall_mem_append.2 ⟨hx.clean, List.forall_mem_cons.2 ⟨by decide, ih⟩⟩

end

section

variable (depth : Nat)

theorem reads_string (text : String) :
    Reads (value (depth + 1)) (JsonText.string text) (.string text) := by
  have hlist : (JsonText.string text).toList = '"' :: (text.toList.flatMap escape ++ ['"']) := by
    simp [JsonText.string]
  constructor
  case opens => exact ⟨_, _, hlist, by decide, by decide, by decide⟩
  case clean =>
    rw [hlist, List.forall_mem_cons, List.forall_mem_append, List.forall_mem_singleton]
    refine ⟨by decide, fun c hc => ?_, by decide⟩
    obtain ⟨d, -, hd⟩ := List.mem_flatMap.1 hc
    exact clean_escape d c hd
  case reads =>
    intro rest _
    have hread : value (depth + 1) ('"' :: (text.toList.flatMap escape ++ '"' :: rest)) =
        (body (text.toList.flatMap escape ++ '"' :: rest)).map
          fun (text, rest) => (.string (String.ofList text), rest) := rfl
    rw [hlist, List.cons_append, List.append_assoc, List.singleton_append, hread, body_string,
      Option.map_some]
    dsimp only
    rw [String.ofList_toList]

/-- What a number starts with. -/
def Signs (c : Char) : Prop := c = '-' ∨ c.isDigit = true

theorem Signs.opens {c : Char} (h : Signs c) : Opens c := by
  have hne (d : Char) (hd : d ≠ '-') (hdigit : d.isDigit = false) : c ≠ d := by
    rintro rfl
    rcases h with rfl | h
    · exact hd rfl
    · rw [hdigit] at h
      cases h
  refine ⟨?_, hne _ (by decide) rfl, hne _ (by decide) rfl⟩
  simp [isBlank, hne ' ' (by decide) rfl, hne '\n' (by decide) rfl, hne '\r' (by decide) rfl,
    hne '\t' (by decide) rfl]

theorem value_of_signs {c : Char} (h : Signs c) (rest : List Char) :
    value (depth + 1) (c :: rest) =
      (number (c :: rest)).map fun (n, rest) => (.number n, rest) := by
  rw [value, blanks_cons h.opens.1]
  split
  case h_7 => rfl
  all_goals
    rename_i heq
    cases heq
    exact absurd h (by unfold Signs; decide)

theorem Signs.clean {c : Char} (h : Signs c) : 0x20 ≤ c.toNat := by
  rcases h with rfl | h
  case inl => decide
  case inr =>
    obtain ⟨hlt, hc⟩ := Decimal.digitChar_of_isDigit h
    have hvalue := Decimal.toNat_digitChar _ hlt
    have hzero : '0'.toNat = 48 := rfl
    rw [hc] at hvalue
    omega

theorem signs_write (n : Int) : ∀ c ∈ (Decimal.write n).toList, Signs c := by
  have hdigits : ∀ c ∈ Nat.toDigits 10 n.natAbs, Signs c :=
    fun c hc => .inr ((Decimal.Digits.toDigits n.natAbs).isDigit c hc)
  rw [Decimal.toList_write]
  split
  case isTrue => exact List.forall_mem_cons.2 ⟨.inl rfl, hdigits⟩
  case isFalse => exact hdigits

theorem reads_number (n : Int) : Reads (value (depth + 1)) (JsonText.number n) (.number n) := by
  obtain ⟨c, cs, hcs⟩ : ∃ c cs, (Decimal.write n).toList = c :: cs := by
    rw [Decimal.toList_write]
    split
    case isTrue => exact ⟨_, _, rfl⟩
    case isFalse => exact List.exists_cons_of_ne_nil Nat.toDigits_ne_nil
  have hc : Signs c := signs_write n c (hcs ▸ List.mem_cons_self)
  constructor
  case opens => exact ⟨c, cs, hcs, hc.opens⟩
  case clean => exact fun d hd => (signs_write n d hd).clean
  case reads =>
    intro rest hrest
    have hread := number_write n hrest
    unfold JsonText.number
    rw [hcs, List.cons_append] at hread ⊢
    rw [value_of_signs _ hc, hread, Option.map_some]

theorem reads_array {texts : List String} {xs : List Json}
    (h : List.Forall₂ (Reads (value depth)) texts xs) :
    Reads (value (depth + 1)) (JsonText.array texts) (.array xs) := by
  have hlist : (JsonText.array texts).toList =
      '[' :: ((",".intercalate texts).toList ++ [']']) := by
    simp [JsonText.array]
  constructor
  case opens => exact ⟨_, _, hlist, by decide, by decide, by decide⟩
  case clean =>
    rw [hlist, List.forall_mem_cons, List.forall_mem_append, List.forall_mem_singleton]
    exact ⟨by decide, clean_intercalate h, by decide⟩
  case reads =>
    intro rest _
    have hread (cs : List Char) : value (depth + 1) ('[' :: cs) =
        (sequence (value depth) ']' cs).map fun (xs, rest) => (.array xs, rest) := rfl
    rw [hlist, List.cons_append, List.append_assoc, List.singleton_append, hread,
      sequence_intercalate closes_bracket h, Option.map_some]

/-- A member whose name needs no escape. -/
inductive ReadsMember : String × String → String × Json → Prop where
  | mk {name text : String} {v : Json} (plain : name.toList.flatMap escape = name.toList)
      (reads : Reads (value depth) text v) : ReadsMember (name, text) (name, v)

theorem reads_member {m : String × String} {x : String × Json} (h : ReadsMember depth m x) :
    Reads (member (value depth)) ("\"" ++ m.1 ++ "\":" ++ m.2) x := by
  obtain @⟨name, text, v, hplain, htext⟩ := h
  have hlist : ("\"" ++ name ++ "\":" ++ text).toList =
      '"' :: (name.toList.flatMap escape ++ '"' :: ':' :: text.toList) := by
    rw [hplain]
    simp
  constructor
  case opens => exact ⟨_, _, hlist, by decide, by decide, by decide⟩
  case clean =>
    rw [hlist]
    refine List.forall_mem_cons.2 ⟨by decide, List.forall_mem_append.2 ⟨fun c hc => ?_, ?_⟩⟩
    · obtain ⟨d, -, hd⟩ := List.mem_flatMap.1 hc
      exact clean_escape d c hd
    · exact List.forall_mem_cons.2 ⟨by decide, List.forall_mem_cons.2 ⟨by decide, htext.clean⟩⟩
  case reads =>
    intro rest hrest
    have hread (cs : List Char) : member (value depth) ('"' :: cs) =
        match body cs with
        | none => none
        | some (name, rest) =>
          match blanks rest with
          | ':' :: rest =>
            (value depth rest).map fun (x, rest) => ((String.ofList name, x), rest)
          | _ => none := rfl
    rw [hlist, List.cons_append, List.append_assoc, List.cons_append, List.cons_append, hread,
      body_string]
    show (value depth (text.toList ++ rest)).map _ = _
    rw [htext.reads _ hrest, Option.map_some]
    dsimp only
    rw [String.ofList_toList]

theorem reads_object {members : List (String × String)} {xs : List (String × Json)}
    (h : List.Forall₂ (ReadsMember depth) members xs) :
    Reads (value (depth + 1)) (JsonText.object members) (.object xs) := by
  have hmembers : List.Forall₂ (Reads (member (value depth)))
      (members.map fun m => "\"" ++ m.1 ++ "\":" ++ m.2) xs :=
    List.forall₂_map_left_iff.2 (h.imp fun _ _ hm => reads_member depth hm)
  have hlist : (JsonText.object members).toList = '\x7b' ::
      ((",".intercalate (members.map fun m => "\"" ++ m.1 ++ "\":" ++ m.2)).toList ++ ['\x7d']) := by
    rw [JsonText.object, String.toList_append, String.toList_append]
    rfl
  constructor
  case opens => exact ⟨_, _, hlist, by decide, by decide, by decide⟩
  case clean =>
    rw [hlist, List.forall_mem_cons, List.forall_mem_append, List.forall_mem_singleton]
    exact ⟨by decide, clean_intercalate hmembers, by decide⟩
  case reads =>
    intro rest _
    have hread (cs : List Char) : value (depth + 1) ('\x7b' :: cs) =
        (sequence (member (value depth)) '\x7d' cs).map fun (xs, rest) => (.object xs, rest) := rfl
    rw [hlist, List.cons_append, List.append_assoc, List.singleton_append, hread,
      sequence_intercalate closes_brace hmembers, Option.map_some]

end

end JsonReading

namespace Json

/-- A text that holds one value and nothing else. -/
def read? (text : String) : Option Json :=
  match JsonReading.value 128 text.toList with
  | some (v, rest) => if JsonReading.blanks rest = [] then some v else none
  | none => none

theorem read?_of_reads {text : String} {v : Json}
    (h : JsonReading.Reads (JsonReading.value 128) text v) : read? text = some v := by
  have hread := h.reads [] nofun
  rw [List.append_nil] at hread
  unfold read?
  rw [hread]
  rfl

example : (read? " [ 1 , \"\\ud83d\\ude00\" ] ").isSome ∧ (read? "[1,01]").isNone := by
  decide +kernel

end Json

end Text
end EngineHost
