import AnalyzerAdmin.Proofs.BatchTokens

/-!
# How batch tokens are written

A token is a name, an equals sign and a number below `2^64`, which may have a plus sign and zeros in
front. A text is read as a token exactly if it is one. In all other cases the first fault is
reported: no equals sign, then what stands behind the first one, and then the name in front of it.
-/

namespace AnalyzerAdmin

namespace Decimal

structure Numeral where
  plus : Bool
  digits : List Char
  ne_nil : digits ≠ []
  isDigit : ∀ c ∈ digits, '0' ≤ c ∧ c ≤ '9'

namespace Numeral

def chars (m : Numeral) : List Char := if m.plus then '+' :: m.digits else m.digits

def text (m : Numeral) : String := String.ofList m.chars

def value (m : Numeral) : Nat := Nat.ofDigitChars 10 m.digits 0

def plain (n : Nat) : Numeral where
  plus := false
  digits := ofNat n
  ne_nil := ofNat_ne_nil n
  isDigit c hc := by
    have hdigit := isDigit_of_mem_ofNat n c hc
    rw [Decimal.isDigit, digit?] at hdigit
    split_ifs at hdigit with hrange
    · exact hrange
    · cases hdigit

theorem value_plain (n : Nat) : (plain n).value = n := Nat.ofDigitChars_ten_toDigits

end Numeral

variable {limit n acc : Nat} {excess : Fault} {cs : List Char}

theorem digit?_eq_some_iff {c : Char} {d : Nat} :
    digit? c = some d ↔ ('0' ≤ c ∧ c ≤ '9') ∧ d = c.toNat - '0'.toNat := by
  rw [digit?]
  split_ifs with hc
  · rw [Option.some_inj, eq_comm, and_iff_right hc]
  · exact ⟨nofun, fun h => absurd h.1 hc⟩

theorem readDigits_eq_ok_iff (hacc : acc ≤ limit) : readDigits limit excess acc cs = .ok n ↔
    (∀ c ∈ cs, '0' ≤ c ∧ c ≤ '9') ∧ Nat.ofDigitChars 10 cs acc = n ∧ n ≤ limit := by
  induction cs generalizing acc with
  | nil =>
    rw [readDigits, Nat.ofDigitChars_nil]
    constructor
    · intro h
      cases h
      exact ⟨List.forall_mem_nil _, rfl, hacc⟩
    · rintro ⟨-, rfl, -⟩
      rfl
  | cons c cs ih =>
    rw [readDigits, List.forall_mem_cons, Nat.ofDigitChars_cons]
    cases hdigit : digit? c with
    | none =>
      refine ⟨fun h => ?_, fun h => ?_⟩
      · cases h
      · rw [digit?, if_pos h.1.1] at hdigit
        cases hdigit
    | some d =>
      obtain ⟨hc, rfl⟩ := digit?_eq_some_iff.mp hdigit
      simp only [hc, and_self, true_and]
      split_ifs with hexcess
      · refine ⟨fun h => ?_, fun h => ?_⟩
        · cases h
        · have hgrows := le_ofDigitChars cs (10 * acc + (c.toNat - '0'.toNat))
          omega
      · exact ih (Nat.not_lt.mp hexcess)

theorem readNat_plus (hne : cs ≠ []) :
    readNat limit ('+' :: cs) = readDigits limit .tooLarge 0 cs := by
  cases cs with
  | nil => exact absurd rfl hne
  | cons c cs => rfl

theorem readNat_of_head {c : Char} (hc : c ≠ '+') :
    readNat limit (c :: cs) = readDigits limit .tooLarge 0 (c :: cs) := by
  rw [readNat]
  · exact nofun
  · exact fun h => hc (List.cons.inj h).1
  · exact fun _ h => hc (List.cons.inj h).1

theorem Numeral.readNat_chars (m : Numeral) :
    readNat limit m.chars = readDigits limit .tooLarge 0 m.digits := by
  rw [chars]
  split_ifs
  · exact readNat_plus m.ne_nil
  · obtain ⟨c, cs, hcs⟩ := List.exists_cons_of_ne_nil m.ne_nil
    have hdigit := m.isDigit c (hcs ▸ List.mem_cons_self)
    have hplus : c ≠ '+' := by
      rintro rfl
      exact absurd hdigit (by decide)
    rw [hcs, readNat_of_head hplus]

theorem exists_numeral_of_readNat (h : readNat limit cs = .ok n) : ∃ m : Numeral, m.chars = cs := by
  rw [readNat.eq_def] at h
  split at h
  · cases h
  · cases h
  · rename_i ds hne
    obtain ⟨hdigits, -⟩ := (readDigits_eq_ok_iff (Nat.zero_le limit)).mp h
    exact ⟨⟨true, ds, by simpa using hne, hdigits⟩, rfl⟩
  · rename_i hne _ _
    obtain ⟨hdigits, -⟩ := (readDigits_eq_ok_iff (Nat.zero_le limit)).mp h
    exact ⟨⟨false, cs, by simpa using hne, hdigits⟩, rfl⟩

theorem readNat_eq_ok_iff : readNat limit cs = .ok n ↔
    ∃ m : Numeral, m.chars = cs ∧ m.value = n ∧ n ≤ limit := by
  have hread (m : Numeral) : readNat limit m.chars = .ok n ↔ m.value = n ∧ n ≤ limit := by
    rw [m.readNat_chars, readDigits_eq_ok_iff (Nat.zero_le limit), and_iff_right m.isDigit]
    rfl
  constructor
  · intro h
    obtain ⟨m, rfl⟩ := exists_numeral_of_readNat h
    exact ⟨m, rfl, (hread m).mp h⟩
  · rintro ⟨m, rfl, h⟩
    exact (hread m).mpr h

theorem readUInt64_eq_ok_iff {n : UInt64} :
    readUInt64 cs = .ok n ↔ ∃ m : Numeral, m.chars = cs ∧ m.value = n.toNat := by
  have hlt := n.toNat_lt
  rw [readUInt64]
  constructor
  · intro h
    obtain ⟨k, hk, rfl⟩ := map_ok h
    obtain ⟨m, hchars, hvalue, hle⟩ := readNat_eq_ok_iff.mp hk
    refine ⟨m, hchars, ?_⟩
    rw [hvalue, UInt64.toNat_ofNat_of_lt' (by simp [UInt64.size]; omega)]
  · rintro ⟨m, hchars, hvalue⟩
    rw [readNat_eq_ok_iff.mpr ⟨m, hchars, hvalue, by omega⟩]
    exact congrArg Except.ok UInt64.ofNat_toNat

end Decimal

namespace BatchToken

open BatchOptions (Kind)

def value : BatchToken → UInt64
  | .period n => n
  | .maxDatapoints n => n

def ofKind : Kind → UInt64 → BatchToken
  | .period => .period
  | .maxDatapoints => .maxDatapoints

theorem ofKind_kind (token : BatchToken) : ofKind token.kind token.value = token := by
  cases token <;> rfl

variable {text name number : String} {n : UInt64} {fault : TokenFault}

def IsNumber (text : String) : Prop :=
  ∃ m : Decimal.Numeral, text = m.text ∧ m.value < 2 ^ 64

/-- The first fault of a text that is no token, and what it is told as. -/
inductive Faulty (text : String) : TokenFault → String → Prop
  | noValue : '=' ∉ text.toList →
      Faulty text (.noValue text) ("expected period=N or maxdatapoints=N, got '" ++ text ++ "'")
  | badValue {name value : String} : text = name ++ "=" ++ value → '=' ∉ name.toList →
      ¬IsNumber value →
      Faulty text (.badValue value) ("'" ++ value ++ "' is not a non-negative integer")
  | unknownName {name value : String} : text = name ++ "=" ++ value → '=' ∉ name.toList →
      IsNumber value → (∀ kind : Kind, name ≠ kind.name) →
      Faulty text (.unknownName name) ("unknown batch option '" ++ name ++ "'")

theorem exists_readUInt64_iff :
    (∃ n, Decimal.readUInt64 number.toList = .ok n) ↔ IsNumber number := by
  simp only [Decimal.readUInt64_eq_ok_iff]
  constructor
  · rintro ⟨n, m, hchars, hvalue⟩
    refine ⟨m, ?_, hvalue ▸ n.toNat_lt⟩
    rw [Decimal.Numeral.text, hchars, String.ofList_toList]
  · rintro ⟨m, rfl, hlt⟩
    exact ⟨UInt64.ofNat m.value, m, String.toList_ofList.symm, (UInt64.toNat_ofNat_of_lt' hlt).symm⟩

theorem forall_ne_of_notMem {cs : List Char} (h : '=' ∉ cs) :
    ∀ c ∈ cs, decide (c ≠ '=') = true := by
  intro c hc
  refine decide_eq_true ?_
  rintro rfl
  exact h hc

theorem read_of_notMem (h : '=' ∉ text.toList) : read text = .error (.noValue text) := by
  have hdrop : (text.toList ++ []).dropWhile (· ≠ '=') = [] :=
    List.dropWhile_append_of_pos (forall_ne_of_notMem h)
  rw [List.append_nil] at hdrop
  rw [read, hdrop]

theorem read_joined (h : '=' ∉ name.toList) :
    read (name ++ "=" ++ number) =
      match Decimal.readUInt64 number.toList with
      | .error _ => .error (.badValue number)
      | .ok n =>
        if name = "period" then .ok (.period n)
        else if name = "maxdatapoints" then .ok (.maxDatapoints n)
        else .error (.unknownName name) := by
  have htext : (name ++ "=" ++ number).toList = name.toList ++ '=' :: number.toList := by
    simp only [String.toList_append, List.append_assoc]
    rfl
  have hname := forall_ne_of_notMem h
  rw [read, htext, List.takeWhile_append_of_pos hname, List.dropWhile_append_of_pos hname,
    List.takeWhile_cons_of_neg (by decide), List.dropWhile_cons_of_neg (by decide), List.append_nil]
  simp only [String.ofList_toList]
  cases Decimal.readUInt64 number.toList with
  | error fault => rfl
  | ok n =>
    simp only
    split
    · rfl
    · rfl
    · rename_i hperiod hmax
      rw [if_neg hperiod, if_neg hmax]

theorem exists_split (text : String) : '=' ∉ text.toList ∨
    ∃ name number, text = name ++ "=" ++ number ∧ '=' ∉ name.toList := by
  by_cases h : '=' ∈ text.toList
  · obtain ⟨front, back, htext, hfront⟩ := List.eq_append_cons_of_mem h
    refine .inr ⟨String.ofList front, String.ofList back, ?_, by rwa [String.toList_ofList]⟩
    apply String.toList_inj.mp
    rw [htext]
    simp only [String.toList_append, String.toList_ofList, List.append_assoc]
    rfl
  · exact .inl h

theorem read_named (kind : Kind) (h : Decimal.readUInt64 number.toList = .ok n) :
    read (kind.name ++ "=" ++ number) = .ok (ofKind kind n) := by
  have hname : '=' ∉ kind.name.toList := by cases kind <;> decide
  rw [read_joined hname, h]
  cases kind <;> rfl

theorem read_eq_ok_iff {token : BatchToken} : read text = .ok token ↔
    ∃ m : Decimal.Numeral, text = token.kind.name ++ "=" ++ m.text ∧
      m.value = token.value.toNat := by
  constructor
  · intro h
    rcases exists_split text with hnone | ⟨name, number, rfl, hname⟩
    · rw [read_of_notMem hnone] at h
      cases h
    · rw [read_joined hname] at h
      cases hread : Decimal.readUInt64 number.toList with
      | error fault =>
        rw [hread] at h
        cases h
      | ok n =>
        obtain ⟨m, hchars, hvalue⟩ := Decimal.readUInt64_eq_ok_iff.mp hread
        have htext : number = m.text := by rw [Decimal.Numeral.text, hchars, String.ofList_toList]
        simp only [hread] at h
        split_ifs at h with hperiod hmax
        · cases h
          exact ⟨m, by rw [hperiod, htext]; rfl, hvalue⟩
        · cases h
          exact ⟨m, by rw [hmax, htext]; rfl, hvalue⟩
  · rintro ⟨m, rfl, hvalue⟩
    have hread : Decimal.readUInt64 m.text.toList = .ok token.value :=
      Decimal.readUInt64_eq_ok_iff.mpr ⟨m, String.toList_ofList.symm, hvalue⟩
    rw [read_named token.kind hread, ofKind_kind]

theorem read_of_faulty {told : String} (h : Faulty text fault told) :
    read text = .error fault ∧ fault.message = told := by
  cases h with
  | noValue hnone => exact ⟨read_of_notMem hnone, rfl⟩
  | badValue htext hname hnumber =>
    refine ⟨?_, rfl⟩
    rw [← exists_readUInt64_iff, not_exists] at hnumber
    rw [htext, read_joined hname]
    split
    · rfl
    · rename_i n hread
      exact absurd hread (hnumber n)
  | @unknownName name _ htext hname hnumber hkinds =>
    have hperiod : name ≠ "period" := hkinds .period
    have hmax : name ≠ "maxdatapoints" := hkinds .maxDatapoints
    obtain ⟨n, hread⟩ := exists_readUInt64_iff.mpr hnumber
    refine ⟨?_, rfl⟩
    rw [htext, read_joined hname, hread]
    simp only [hperiod, hmax, if_false]

theorem token_or_faulty (text : String) :
    (∃ kind : Kind, ∃ number, text = kind.name ++ "=" ++ number ∧ IsNumber number) ∨
      ∃ fault, Faulty text fault fault.message := by
  rcases exists_split text with hnone | ⟨name, number, htext, hname⟩
  · exact .inr ⟨_, .noValue hnone⟩
  · by_cases hnumber : IsNumber number
    · by_cases hkind : ∃ kind : Kind, name = kind.name
      · obtain ⟨kind, rfl⟩ := hkind
        exact .inl ⟨kind, number, htext, hnumber⟩
      · exact .inr ⟨_, .unknownName htext hname hnumber (not_exists.mp hkind)⟩
    · exact .inr ⟨_, .badValue htext hname hnumber⟩

theorem render_eq (token : BatchToken) :
    token.render = token.kind.name ++ "=" ++ (Decimal.Numeral.plain token.value.toNat).text := by
  cases token <;> rfl

/-- A text is read as a token exactly if it is the name of a kind, an equals sign and a number below
`2^64`, and then as the token of this kind and this number, so a rendered token is read back. In all
other cases the first fault is reported. -/
theorem token_texts_read_exactly (text : String) :
    ((∃ token, read text = .ok token) ↔
        ∃ kind : Kind, ∃ m : Decimal.Numeral, text = kind.name ++ "=" ++ m.text ∧
          m.value < 2 ^ 64) ∧
      (∀ token, read text = .ok token ↔
        ∃ m : Decimal.Numeral, text = token.kind.name ++ "=" ++ m.text ∧
          m.value = token.value.toNat) ∧
      (∀ fault, read text = .error fault ↔ Faulty text fault fault.message) ∧
      ∀ token, read token.render = .ok token := by
  have hshape : (∃ kind : Kind, ∃ number, text = kind.name ++ "=" ++ number ∧ IsNumber number) →
      ∃ token, read text = .ok token := by
    rintro ⟨kind, number, rfl, hnumber⟩
    obtain ⟨n, hread⟩ := exists_readUInt64_iff.mpr hnumber
    exact ⟨_, read_named kind hread⟩
  obtain ⟨hok, herror⟩ := exact_of_total hshape (fun fault h => (read_of_faulty h).1)
    (token_or_faulty text)
  refine ⟨hok.trans ?_, fun token => read_eq_ok_iff, herror, fun token => ?_⟩
  · constructor
    · rintro ⟨kind, number, rfl, m, rfl, hlt⟩
      exact ⟨kind, m, rfl, hlt⟩
    · rintro ⟨kind, m, rfl, hlt⟩
      exact ⟨kind, m.text, rfl, m, rfl, hlt⟩
  · exact read_eq_ok_iff.mpr ⟨_, token.render_eq, Decimal.Numeral.value_plain _⟩

/-- The value is looked at before the name, and it goes on behind the first equals sign. -/
example : read "window=5=" = .error (.badValue "5=") := by decide +kernel

end BatchToken

end AnalyzerAdmin
