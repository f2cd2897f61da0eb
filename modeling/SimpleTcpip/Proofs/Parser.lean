/-
The address scanner: which texts `convert_ip_from_str_to_int` accepts.

`sscanf` reads more than four numbers between dots.  Each `%u` skips white space and takes a
sign, a number is converted in 64 bits and stored in 32, and what follows the fourth number
is not looked at.  A text is described here by its parts, and it is accepted exactly if it
can be taken apart so.
-/
import SimpleTcpip.Model.Ip

namespace SimpleTcpip

/-! ### Numbers and their digits -/

/-- The number a run of digits stands for. -/
def digitsValue (digits : List UInt8) : Nat :=
  digits.foldl (fun acc c => 10 * acc + (c.toNat - 48)) 0

theorem digitsValue_append_one (digits : List UInt8) (c : UInt8) :
    digitsValue (digits ++ [c]) = 10 * digitsValue digits + (c.toNat - 48) := by
  rw [digitsValue, List.foldl_append]
  rfl

/-- A decimal number, written out. -/
structure Numeral where
  digits : List UInt8
  nonempty : digits ≠ []
  isDigit : ∀ c ∈ digits, SimpleTcpip.isDigit c = true

namespace Numeral

def value (n : Numeral) : Nat := digitsValue n.digits

/-- No digit is superfluous. -/
def Canonical (n : Numeral) : Prop := 1 < n.digits.length → n.digits.head? ≠ some 48

/-- A numeral starts with a digit. -/
theorem exists_cons (n : Numeral) :
    ∃ c digits, n.digits = c :: digits ∧ SimpleTcpip.isDigit c = true := by
  obtain ⟨c, digits, h⟩ := List.exists_cons_of_ne_nil n.nonempty
  exact ⟨c, digits, h, n.isDigit c (h ▸ List.mem_cons_self)⟩

end Numeral

theorem toNat_of_isDigit {c : UInt8} (h : isDigit c = true) : 48 ≤ c.toNat ∧ c.toNat ≤ 57 := by
  simpa [isDigit, UInt8.le_iff_toNat_le] using h

/-- A digit is neither white space nor a sign. -/
theorem digit_plain {c : UInt8} (h : isDigit c = true) : isSpace c = false ∧ c ≠ 45 ∧ c ≠ 43 := by
  have hrange := toNat_of_isDigit h
  refine ⟨?_, ?_, ?_⟩
  · have hne : c ≠ 32 := by
      rintro rfl
      exact absurd hrange.1 (by decide)
    have hle : ¬ c ≤ 13 := by
      rw [UInt8.le_iff_toNat_le, show (13 : UInt8).toNat = 13 from rfl]
      omega
    simp [isSpace, hne, hle]
  · rintro rfl
    exact absurd hrange.1 (by decide)
  · rintro rfl
    exact absurd hrange.1 (by decide)

/-- **A number without superfluous digits is what `%u` prints for its value.** -/
theorem printUnsigned_value {digits : List UInt8} (hne : digits ≠ [])
    (hdigit : ∀ c ∈ digits, isDigit c = true)
    (hlead : 1 < digits.length → digits.head? ≠ some 48) :
    (Nat.toDigits 10 (digitsValue digits)).map (fun c => UInt8.ofNat c.toNat) = digits := by
  induction digits using List.reverseRecOn with
  | nil => exact absurd rfl hne
  | append_singleton init c ih =>
      have hrange := toNat_of_isDigit (hdigit c (by simp))
      have hlt : c.toNat - 48 < 10 := by omega
      have hlast : UInt8.ofNat (Nat.digitChar (c.toNat - 48)).toNat = c := by
        have hall : ∀ k < 10, UInt8.ofNat (Nat.digitChar k).toNat = UInt8.ofNat (48 + k) := by
          decide
        rw [hall _ hlt, show 48 + (c.toNat - 48) = c.toNat by omega, UInt8.ofNat_toNat]
      rw [digitsValue_append_one]
      by_cases hinit : init = []
      · subst hinit
        rw [show digitsValue [] = 0 from rfl, Nat.mul_zero, Nat.zero_add,
          Nat.toDigits_of_lt_base hlt, List.map_singleton, hlast]
        rfl
      · -- the digits before the last one start as the whole does
        have hlead' : init.head? ≠ some 48 := by
          have hlen := List.length_pos_iff.mpr hinit
          have := hlead (by rw [List.length_append, List.length_singleton]; omega)
          rwa [List.head?_append_of_ne_nil _ hinit] at this
        have hprint := ih hinit (fun d hd => hdigit d (List.mem_append_left _ hd)) fun _ => hlead'
        have hpos : 0 < digitsValue init := by
          refine Nat.pos_of_ne_zero fun hzero => hlead' ?_
          rw [hzero] at hprint
          rw [← hprint]
          rfl
        rw [← Nat.toDigits_append_toDigits (by decide) hpos hlt, List.map_append, hprint,
          Nat.toDigits_of_lt_base hlt, List.map_singleton, hlast]

/-! ### Four numbers -/

/-- Four of a kind, as the format has them. -/
structure Quad (α : Type) where
  a : α
  b : α
  c : α
  d : α

namespace Quad

variable {α β : Type}

def map (f : α → β) (q : Quad α) : Quad β := ⟨f q.a, f q.b, f q.c, f q.d⟩

def toList (q : Quad α) : List α := [q.a, q.b, q.c, q.d]

/-- A property of each of the four. -/
def All (p : α → Prop) (q : Quad α) : Prop := p q.a ∧ p q.b ∧ p q.c ∧ p q.d

/-- Four texts, separated by dots, and what follows them. -/
def dotted (q : Quad (List UInt8)) (rest : List UInt8) : List UInt8 :=
  q.a ++ 46 :: (q.b ++ 46 :: (q.c ++ 46 :: (q.d ++ rest)))

instance {p : α → Prop} [DecidablePred p] (q : Quad α) : Decidable (q.All p) :=
  inferInstanceAs (Decidable (p q.a ∧ p q.b ∧ p q.c ∧ p q.d))

/-- The number with these four bytes, the first one least significant. -/
def packed (q : Quad Nat) : Nat := q.a + 256 * (q.b + 256 * (q.c + 256 * q.d))

variable {f : α → Nat} {q : Quad α}

theorem packed_lt (h : q.All fun x => f x ≤ 255) : (q.map f).packed < 2 ^ 32 := by
  obtain ⟨ha, hb, hc, hd⟩ := h
  unfold packed map
  dsimp only
  omega

theorem packed_eq_zero : (q.map f).packed = 0 ↔ q.All fun x => f x = 0 := by
  unfold packed map All
  dsimp only
  omega

/-- The bytes of the packed number are the four numbers. -/
theorem bytes32_packed (h : q.All fun x => f x ≤ 255) :
    (Memory.bytes32 (UInt32.ofNat (q.map f).packed)).map UInt8.toNat = q.toList.map f := by
  obtain ⟨ha, hb, hc, hd⟩ := h
  have hlt := packed_lt (f := f) (q := q) ⟨ha, hb, hc, hd⟩
  unfold Memory.bytes32 toList
  rw [UInt32.toNat_ofNat_of_lt' hlt]
  simp only [List.map_cons, List.map_nil, UInt8.toNat_ofNat', List.cons.injEq, and_true]
  unfold packed map
  dsimp only
  omega

end Quad

/-! ### What the scanner reads -/

/-- Where the run of digits at the front of a text ends. -/
def NoDigit (rest : List UInt8) : Prop := ∀ c ∈ rest.head?, isDigit c = false

/-- A number as `%u` takes it: white space, a sign, and digits. -/
structure Field where
  blanks : List UInt8
  isBlank : ∀ c ∈ blanks, isSpace c = true
  /-- `some true` is a minus. -/
  sign : Option Bool
  numeral : Numeral

namespace Field

def signText : Option Bool → List UInt8
  | none => []
  | some true => [45]
  | some false => [43]

def text (f : Field) : List UInt8 := f.blanks ++ (signText f.sign ++ f.numeral.digits)

/-- What is stored for it. -/
def value (f : Field) : UInt32 := UInt32.ofNat (strtoul (f.sign = some true) f.numeral.digits)

/-- A numeral alone. -/
def plain (n : Numeral) : Field where
  blanks := []
  isBlank := fun c hc => by cases hc
  sign := none
  numeral := n

/-- A number that an `unsigned int` can hold is stored as it is. -/
theorem value_plain {n : Numeral} (h : n.value < 2 ^ 32) : (plain n).value.toNat = n.value := by
  have hvalue : strtoul false n.digits = n.value := by
    change (if 2 ^ 64 ≤ n.value then _ else if false = true then _ else n.value) = n.value
    rw [if_neg (by omega), if_neg Bool.false_ne_true]
  change (UInt32.ofNat (strtoul false n.digits)).toNat = n.value
  rw [hvalue, UInt32.toNat_ofNat_of_lt' h]

end Field

section Scan

variable {s rest : List UInt8}

theorem noDigit_dot (rest : List UInt8) : NoDigit (46 :: rest) := by
  intro c hc
  cases hc
  decide

theorem noDigit_nil : NoDigit [] := fun c hc => by cases hc

/-- The digits at the front of a text end where no digit follows. -/
theorem span_digits {digits : List UInt8} (h : ∀ c ∈ digits, isDigit c = true)
    (hrest : NoDigit rest) :
    (digits ++ rest).takeWhile isDigit = digits ∧ (digits ++ rest).dropWhile isDigit = rest := by
  rw [List.takeWhile_append_of_pos h, List.dropWhile_append_of_pos h]
  cases rest with
  | nil => exact ⟨List.append_nil _, rfl⟩
  | cons c rest =>
      rw [List.takeWhile_cons, List.dropWhile_cons, hrest c rfl]
      exact ⟨List.append_nil _, rfl⟩

theorem scanSign_text (f : Field) (rest : List UInt8) :
    scanSign (Field.signText f.sign ++ (f.numeral.digits ++ rest))
      = (decide (f.sign = some true), f.numeral.digits ++ rest) := by
  obtain ⟨c, digits, hdigits, hc⟩ := f.numeral.exists_cons
  obtain ⟨-, hminus, hplus⟩ := digit_plain hc
  rw [hdigits]
  match f.sign with
  | some true => rfl
  | some false => rfl
  | none =>
      change scanSign (c :: (digits ++ rest)) = (false, c :: (digits ++ rest))
      unfold scanSign
      split
      · rename_i heq
        exact absurd (List.cons.inj heq).1 hminus
      · rename_i heq
        exact absurd (List.cons.inj heq).1 hplus
      · rfl

/-- The white space in front of a field ends at its sign or its first digit. -/
theorem dropWhile_text (f : Field) (rest : List UInt8) :
    (f.text ++ rest).dropWhile isSpace
      = Field.signText f.sign ++ (f.numeral.digits ++ rest) := by
  obtain ⟨c, digits, hdigits, hc⟩ := f.numeral.exists_cons
  rw [Field.text, List.append_assoc, List.append_assoc, List.dropWhile_append_of_pos f.isBlank]
  match f.sign with
  | some true => rfl
  | some false => rfl
  | none =>
      rw [hdigits, Field.signText, List.nil_append, List.cons_append, List.dropWhile_cons, (digit_plain hc).1]
      rfl

/-- A conversion reads a field that is there. -/
theorem scanUnsigned_text (f : Field) (hrest : NoDigit rest) :
    scanUnsigned (f.text ++ rest) = some (f.value, rest) := by
  obtain ⟨htake, hdrop⟩ := span_digits f.numeral.isDigit hrest
  have hsome : f.numeral.digits.isEmpty = false := by
    rw [List.isEmpty_eq_false_iff]
    exact f.numeral.nonempty
  unfold scanUnsigned
  rw [dropWhile_text, scanSign_text]
  dsimp only
  rw [htake, hdrop, hsome, if_neg Bool.false_ne_true]
  rfl

/-- The sign that `scanSign` takes off. -/
theorem scanSign_cases (s : List UInt8) : ∃ sign : Option Bool,
    (scanSign s).1 = decide (sign = some true) ∧ s = Field.signText sign ++ (scanSign s).2 := by
  unfold scanSign
  split
  · exact ⟨some true, rfl, rfl⟩
  · exact ⟨some false, rfl, rfl⟩
  · exact ⟨none, rfl, rfl⟩

/-- **What a conversion reads is a field, up to where its digits end.** -/
theorem scanUnsigned_eq_some_iff {v : UInt32} : scanUnsigned s = some (v, rest) ↔
    ∃ f : Field, s = f.text ++ rest ∧ NoDigit rest ∧ v = f.value := by
  constructor
  · intro h
    unfold scanUnsigned at h
    dsimp only at h
    split at h
    · cases h
    · rename_i hdigits
      obtain ⟨hv, rfl⟩ := Prod.mk.inj (Option.some.inj h)
      have hblanks := List.takeWhile_append_dropWhile (p := isSpace) (l := s)
      obtain ⟨sign, hsign, htext⟩ := scanSign_cases (s.dropWhile isSpace)
      rw [hsign] at hv
      generalize (scanSign (s.dropWhile isSpace)).2 = t at *
      have hspan := List.takeWhile_append_dropWhile (p := isDigit) (l := t)
      let n : Numeral :=
        ⟨t.takeWhile isDigit, by simpa using hdigits, fun c hc => List.mem_takeWhile_imp hc⟩
      refine ⟨⟨s.takeWhile isSpace, fun c hc => List.mem_takeWhile_imp hc, sign, n⟩, ?_, ?_, hv.symm⟩
      · rw [Field.text, List.append_assoc, List.append_assoc, hspan, ← htext, hblanks]
      · intro c hc
        have hhead := List.head?_dropWhile_not isDigit t
        rw [Option.mem_def.mp hc] at hhead
        simpa using hhead
  · rintro ⟨f, rfl, hrest, rfl⟩
    exact scanUnsigned_text f hrest

theorem scanDot_eq_some_iff : scanDot s = some rest ↔ s = 46 :: rest := by
  unfold scanDot
  split
  · simp
  · rename_i hne
    simp only [reduceCtorEq, false_iff]
    rintro rfl
    exact hne rest rfl

/-- Four fields stand at the front of a text. -/
def Quad.Reads (q : Quad Field) (s : List UInt8) : Prop :=
  ∃ rest, NoDigit rest ∧ s = (q.map Field.text).dotted rest

theorem scanDottedQuad_eq_some_iff {q : UInt32 × UInt32 × UInt32 × UInt32} :
    scanDottedQuad s = some q ↔ ∃ f : Quad Field, f.Reads s ∧
      q = (f.a.value, f.b.value, f.c.value, f.d.value) := by
  unfold scanDottedQuad
  constructor
  · intro h
    simp only [Option.bind_eq_bind, Option.bind_eq_some_iff, Prod.exists,
      scanUnsigned_eq_some_iff, scanDot_eq_some_iff] at h
    obtain ⟨_, _, ⟨a, rfl, -, rfl⟩, _, rfl, _, _, ⟨b, rfl, -, rfl⟩, _, rfl, _, _, ⟨c, rfl, -, rfl⟩,
      _, rfl, _, rest, ⟨d, rfl, hrest, rfl⟩, heq⟩ := h
    exact ⟨⟨a, b, c, d⟩, ⟨rest, hrest, rfl⟩, (Option.some.inj heq).symm⟩
  · rintro ⟨f, ⟨rest, hrest, rfl⟩, rfl⟩
    simp only [Quad.map, Quad.dotted, scanUnsigned_text _ (noDigit_dot _),
      scanUnsigned_text _ hrest, scanDot, Option.bind_eq_bind, Option.bind_some]

/-- The address of a text that starts with four fields. -/
theorem convertIpFromStrToInt_reads {q : Quad Field} (h : q.Reads s) :
    convertIpFromStrToInt s = if q.All (fun f => f.value.toNat ≤ 255)
      then UInt32.ofNat (q.map fun f => f.value.toNat).packed else 0 := by
  have hlt : ∀ v : UInt32, 255 < v ↔ ¬ v.toNat ≤ 255 := by
    intro v
    rw [UInt32.lt_iff_toNat_lt, show (255 : UInt32).toNat = 255 from rfl]
    omega
  unfold convertIpFromStrToInt
  rw [scanDottedQuad_eq_some_iff.mpr ⟨q, h, rfl⟩]
  dsimp only
  simp only [Bool.or_eq_true, decide_eq_true_eq, hlt, ← not_and_or]
  rw [ite_not]
  unfold Quad.All
  simp only [and_assoc]
  rfl

/-- A text starts with four numbers which, as they are stored, are at most 255 and not all
zero. -/
def ReadsAddress (s : List UInt8) : Prop :=
  ∃ q : Quad Field, q.Reads s ∧ q.All (fun f => f.value.toNat ≤ 255) ∧
    ¬ q.All (fun f => f.value.toNat = 0)

/-- **These are the texts that are accepted.** -/
theorem convertIpFromStrToInt_ne_zero : convertIpFromStrToInt s ≠ 0 ↔ ReadsAddress s := by
  have hpacked : ∀ q : Quad Field, q.All (fun f => f.value.toNat ≤ 255) →
      (UInt32.ofNat (q.map fun f => f.value.toNat).packed = 0 ↔
        q.All (fun f => f.value.toNat = 0)) := by
    intro q hq
    rw [← UInt32.toNat_inj, UInt32.toNat_ofNat_of_lt' (Quad.packed_lt hq)]
    exact Quad.packed_eq_zero
  constructor
  · intro h
    cases hscan : scanDottedQuad s with
    | none =>
        rw [convertIpFromStrToInt, hscan] at h
        exact absurd rfl h
    | some v =>
        obtain ⟨q, hq, -⟩ := scanDottedQuad_eq_some_iff.mp hscan
        rw [convertIpFromStrToInt_reads hq] at h
        split at h
        · rename_i hle
          exact ⟨q, hq, hle, fun hzero => h ((hpacked q hle).mpr hzero)⟩
        · exact absurd rfl h
  · rintro ⟨q, hq, hle, hne⟩
    rw [convertIpFromStrToInt_reads hq, if_pos hle]
    exact fun hzero => hne ((hpacked q hle).mp hzero)

end Scan

/-! ### Dotted quads -/

/-- A text consists of four decimal numbers up to 255, separated by dots. -/
def DottedQuad (n : Quad Numeral) (s : List UInt8) : Prop :=
  s = (n.map Numeral.digits).dotted [] ∧ n.All fun m => m.value ≤ 255

/-- The text of an address other than 0.0.0.0. -/
def IsAddress (s : List UInt8) : Prop :=
  ∃ n, DottedQuad n s ∧ ¬ n.All fun m => m.value = 0

/-- The address of a dotted quad has the four numbers for its bytes. -/
theorem DottedQuad.convert {n : Quad Numeral} {s : List UInt8} (h : DottedQuad n s) :
    convertIpFromStrToInt s = UInt32.ofNat (n.map Numeral.value).packed := by
  obtain ⟨rfl, ha, hb, hc, hd⟩ := h
  have hvalue : ∀ m : Numeral, m.value ≤ 255 → (Field.plain m).value.toNat = m.value := fun m hm =>
    Field.value_plain (Nat.lt_of_le_of_lt hm (by decide))
  have hreads : (n.map Field.plain).Reads ((n.map Numeral.digits).dotted []) :=
    ⟨[], noDigit_nil, rfl⟩
  have hvalues : ((n.map Field.plain).map fun f => f.value.toNat) = n.map Numeral.value := by
    simp only [Quad.map, hvalue _ ha, hvalue _ hb, hvalue _ hc, hvalue _ hd]
  have hle : (n.map Field.plain).All fun f => f.value.toNat ≤ 255 :=
    ⟨(hvalue _ ha).le.trans ha, (hvalue _ hb).le.trans hb, (hvalue _ hc).le.trans hc,
      (hvalue _ hd).le.trans hd⟩
  rw [convertIpFromStrToInt_reads hreads, if_pos hle, hvalues]

/-- A text is parsed as a dotted quad and as nothing else. -/
structure ParsesExactly (s : List UInt8) : Prop where
  accepts : convertIpFromStrToInt s ≠ 0 ↔ IsAddress s
  bytes : ∀ n, DottedQuad n s →
    (Memory.bytes32 (convertIpFromStrToInt s)).map UInt8.toNat = n.toList.map Numeral.value

/-- **Exactly the dotted quads are parsed, but for the texts that only start as `sscanf` would
have them.** -/
theorem parsesExactly_iff (s : List UInt8) :
    ParsesExactly s ↔ (ReadsAddress s → IsAddress s) := by
  constructor
  · intro h hreads
    exact h.accepts.mp (convertIpFromStrToInt_ne_zero.mpr hreads)
  · intro h
    refine ⟨⟨fun hne => h (convertIpFromStrToInt_ne_zero.mp hne), ?_⟩, fun n hn => ?_⟩
    · rintro ⟨n, hn, hne⟩ hzero
      refine hne (Quad.packed_eq_zero.mp ?_)
      rw [hn.convert] at hzero
      have hnat := congrArg UInt32.toNat hzero
      rwa [UInt32.toNat_ofNat_of_lt' (Quad.packed_lt hn.2)] at hnat
    · rw [hn.convert]
      exact Quad.bytes32_packed hn.2

/-- A text of digits and dots only. -/
theorem DottedQuad.chars {n : Quad Numeral} {s : List UInt8} (h : DottedQuad n s) {c : UInt8}
    (hc : c ∈ s) : isDigit c = true ∨ c = 46 := by
  rw [h.1] at hc
  simp only [Quad.dotted, Quad.map, List.mem_append, List.mem_cons, List.append_nil] at hc
  rcases hc with hc | hc | hc | hc | hc | hc | hc
  · exact Or.inl (n.a.isDigit c hc)
  · exact Or.inr hc
  · exact Or.inl (n.b.isDigit c hc)
  · exact Or.inr hc
  · exact Or.inl (n.c.isDigit c hc)
  · exact Or.inr hc
  · exact Or.inl (n.d.isDigit c hc)

/-- `1.2.3.4x` is taken for an address. -/
theorem parsed_inexactly : ¬ ∀ s, ParsesExactly s := by
  intro h
  have hparse := h [49, 46, 50, 46, 51, 46, 52, 120]
  obtain ⟨n, hn, -⟩ := hparse.accepts.mp (by decide)
  have := hn.chars (c := 120) (by decide)
  exact absurd this (by decide)

/-! ### Printing and reading back -/

theorem toNat_digit {n : Nat} {c : Char} (h : c ∈ Nat.toDigits 10 n) :
    48 ≤ c.toNat ∧ c.toNat ≤ 57 := by
  have hd := Nat.isDigit_of_mem_toDigits (by decide) (by decide) h
  simp only [Char.isDigit, Bool.and_eq_true, decide_eq_true_eq] at hd
  exact hd

theorem isDigit_printUnsigned {n : UInt32} {c : UInt8} (h : c ∈ printUnsigned n) :
    isDigit c = true := by
  obtain ⟨d, hd, rfl⟩ := List.mem_map.mp h
  have hrange := toNat_digit hd
  simp [isDigit, UInt8.le_iff_toNat_le]
  omega

/-- What `%u` prints. -/
def Numeral.printed (n : UInt32) : Numeral where
  digits := printUnsigned n
  nonempty := fun hnil => Nat.toDigits_ne_nil (List.map_eq_nil_iff.mp hnil)
  isDigit := fun _ hc => isDigit_printUnsigned hc

/-- Reading back the digits of a number. -/
theorem Numeral.value_printed (n : UInt32) : (printed n).value = n.toNat := by
  have hread : (Nat.toDigits 10 n.toNat).foldl (fun acc c => 10 * acc + (c.toNat - 48)) 0
      = n.toNat := Nat.ofDigitChars_ten_toDigits
  change (printUnsigned n).foldl (fun acc c => 10 * acc + (c.toNat - 48)) 0 = n.toNat
  rw [printUnsigned, List.foldl_map]
  refine Eq.trans (List.foldl_ext _ _ _ fun acc c hc => ?_) hread
  have hrange := toNat_digit hc
  simp
  omega

/-- An octet of an address, as the shifts pick it. -/
theorem toNat_octet (ip : UInt32) (k : Nat) (hk : k < 4) :
    (ip >>> UInt32.ofNat (8 * k) &&& (0xff : UInt32)).toNat = ip.toNat / 256 ^ k % 256 := by
  have hshift : (UInt32.ofNat (8 * k)).toNat % 32 = 8 * k := by
    have hsize : 8 * k < UInt32.size := Nat.lt_trans (by omega : 8 * k < 32) (by decide)
    rw [UInt32.toNat_ofNat_of_lt' hsize, Nat.mod_eq_of_lt (by omega)]
  rw [UInt32.toNat_and, UInt32.toNat_shiftRight, hshift, Nat.shiftRight_eq_div_pow]
  change _ &&& (2 ^ 8 - 1) = _
  rw [Nat.and_two_pow_sub_one_eq_mod, Nat.pow_mul]

/-- The octets `convert_ip_from_int_to_str` prints. -/
def octets (ip : UInt32) : Quad UInt32 where
  a := ip &&& (0xff : UInt32)
  b := ip >>> (8 : UInt32) &&& (0xff : UInt32)
  c := ip >>> (16 : UInt32) &&& (0xff : UInt32)
  d := ip >>> (24 : UInt32) &&& (0xff : UInt32)

theorem toNat_octets (ip : UInt32) : (octets ip).map UInt32.toNat = ⟨ip.toNat % 256,
    ip.toNat / 256 % 256, ip.toNat / 65536 % 256, ip.toNat / 16777216 % 256⟩ := by
  have h0 : (ip &&& (0xff : UInt32)).toNat = ip.toNat % 256 := by
    simpa using toNat_octet ip 0 (by decide)
  have h1 : (ip >>> (8 : UInt32) &&& (0xff : UInt32)).toNat = _ := toNat_octet ip 1 (by decide)
  have h2 : (ip >>> (16 : UInt32) &&& (0xff : UInt32)).toNat = _ := toNat_octet ip 2 (by decide)
  have h3 : (ip >>> (24 : UInt32) &&& (0xff : UInt32)).toNat = _ := toNat_octet ip 3 (by decide)
  unfold octets Quad.map
  dsimp only
  rw [h0, h1, h2, h3, Nat.pow_one]
  rfl

theorem packed_octets (ip : UInt32) : ((octets ip).map UInt32.toNat).packed = ip.toNat := by
  have hlt := ip.toNat_lt
  rw [toNat_octets, Quad.packed]
  dsimp only
  omega

theorem octets_le (ip : UInt32) : (octets ip).All fun v => v.toNat ≤ 255 := by
  have hmod : ∀ k : Nat, k % 256 ≤ 255 := fun k => Nat.le_of_lt_succ (Nat.mod_lt k (by decide))
  have hall : ((octets ip).map UInt32.toNat).All (· ≤ 255) := by
    rw [toNat_octets]
    exact ⟨hmod _, hmod _, hmod _, hmod _⟩
  exact hall

/-- What is printed for an address is a dotted quad. -/
theorem dottedQuad_printed (ip : UInt32) :
    DottedQuad ((octets ip).map Numeral.printed) (convertIpFromIntToStr ip) := by
  obtain ⟨ha, hb, hc, hd⟩ := octets_le ip
  refine ⟨?_, ?_⟩
  · simp [convertIpFromIntToStr, Quad.dotted, Quad.map, octets, Numeral.printed]
  · exact ⟨(Numeral.value_printed _).le.trans ha, (Numeral.value_printed _).le.trans hb,
      (Numeral.value_printed _).le.trans hc, (Numeral.value_printed _).le.trans hd⟩

/-- **An address survives being printed and read back.** -/
theorem convertIpFromStrToInt_convertIpFromIntToStr (ip : UInt32) :
    convertIpFromStrToInt (convertIpFromIntToStr ip) = ip := by
  have hvalues : ((octets ip).map Numeral.printed).map Numeral.value
      = (octets ip).map UInt32.toNat := by
    simp only [Quad.map, Numeral.value_printed]
  rw [(dottedQuad_printed ip).convert, hvalues, packed_octets, UInt32.ofNat_toNat]

/-- A dotted quad without superfluous digits is printed for its address. -/
theorem DottedQuad.print {n : Quad Numeral} {s : List UInt8} (h : DottedQuad n s)
    (hcanon : n.All Numeral.Canonical) : convertIpFromIntToStr (convertIpFromStrToInt s) = s := by
  obtain ⟨ha, hb, hc, hd⟩ := hcanon
  obtain ⟨hla, hlb, hlc, hld⟩ := h.2
  have hnat : (convertIpFromStrToInt s).toNat = (n.map Numeral.value).packed := by
    rw [h.convert, UInt32.toNat_ofNat_of_lt' (Quad.packed_lt h.2)]
  have hoctets : (octets (convertIpFromStrToInt s)).map UInt32.toNat = n.map Numeral.value := by
    rw [toNat_octets, hnat]
    unfold Quad.packed Quad.map
    simp only [Quad.mk.injEq]
    omega
  have hprint : ∀ (m : Numeral) (v : UInt32), m.Canonical → v.toNat = m.value →
      printUnsigned v = m.digits := by
    intro m v hm hv
    rw [printUnsigned, hv]
    exact printUnsigned_value m.nonempty m.isDigit hm
  generalize convertIpFromStrToInt s = ip at *
  obtain ⟨hva, hvb, hvc, hvd⟩ := Quad.mk.inj hoctets
  have hdigits : ((octets ip).map Numeral.printed).map Numeral.digits = n.map Numeral.digits := by
    simp only [Quad.map, Numeral.printed, Quad.mk.injEq]
    exact ⟨hprint _ _ ha hva, hprint _ _ hb hvb, hprint _ _ hc hvc, hprint _ _ hd hvd⟩
  rw [(dottedQuad_printed ip).1, hdigits, h.1]

/-- An octet takes at most three digits. -/
theorem length_printUnsigned {v : UInt32} (h : v.toNat ≤ 255) : (printUnsigned v).length ≤ 3 := by
  rw [printUnsigned, List.length_map, Nat.length_toDigits_le_iff (by decide) (by decide)]
  omega

theorem length_convertIpFromIntToStr (ip : UInt32) : (convertIpFromIntToStr ip).length ≤ 15 := by
  obtain ⟨ha, hb, hc, hd⟩ := octets_le ip
  have h0 := length_printUnsigned ha
  have h1 := length_printUnsigned hb
  have h2 := length_printUnsigned hc
  have h3 := length_printUnsigned hd
  rw [(dottedQuad_printed ip).1]
  simp only [Quad.dotted, Quad.map, Numeral.printed, List.length_append, List.length_cons,
    List.length_nil]
  omega

/-- **Printing and reading an address are inverse**, and fifteen characters are enough. -/
theorem address_round_trip :
    (∀ v, convertIpFromStrToInt (convertIpFromIntToStr v) = v) ∧
    (∀ s n, DottedQuad n s → n.All Numeral.Canonical →
      convertIpFromIntToStr (convertIpFromStrToInt s) = s) ∧
    ∀ v, (convertIpFromIntToStr v).length ≤ 15 :=
  ⟨convertIpFromStrToInt_convertIpFromIntToStr, fun _ _ hn hcanon => hn.print hcanon,
    length_convertIpFromIntToStr⟩

/-- `192.168.89.1`, read and printed, and its value, printed and read. -/
theorem address_round_trip_fixture :
    convertIpFromIntToStr (convertIpFromStrToInt [49, 57, 50, 46, 49, 54, 56, 46, 56, 57, 46, 49])
        = [49, 57, 50, 46, 49, 54, 56, 46, 56, 57, 46, 49] ∧
      convertIpFromStrToInt (convertIpFromIntToStr 0x0159a8c0) = 0x0159a8c0 := by
  refine ⟨?_, address_round_trip.1 _⟩
  let a : Numeral := ⟨[49, 57, 50], by decide, by decide +kernel⟩
  let b : Numeral := ⟨[49, 54, 56], by decide, by decide +kernel⟩
  let c : Numeral := ⟨[56, 57], by decide, by decide +kernel⟩
  let d : Numeral := ⟨[49], by decide, by decide +kernel⟩
  refine address_round_trip.2.1 _ ⟨a, b, c, d⟩ ⟨rfl, ?_⟩ ?_
  · exact ⟨by decide, by decide, by decide, by decide⟩
  · exact ⟨fun _ => by decide, fun _ => by decide, fun _ => by decide, fun _ => by decide⟩

end SimpleTcpip
