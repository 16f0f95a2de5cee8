import AnalyzerAdmin.CommandLine.Settings
import AnalyzerAdmin.Proofs.Numerals

/-!
# Values of options

The settings are the texts that options have been given: each value is read back from its numeral,
an option that may be given takes its text and leaves the others as they are (`give_of_renders`),
and settings with the same texts are the same (`Settings.ext_texts`).
-/

namespace AnalyzerAdmin

namespace Decimal

variable {limit n : Nat} {excess : Fault}

theorem readDigits_append (acc : Nat) (cs ds : List Char) :
    readDigits limit excess acc (cs ++ ds) =
      (readDigits limit excess acc cs).bind fun acc => readDigits limit excess acc ds := by
  induction cs generalizing acc with
  | nil => rfl
  | cons c cs ih =>
    rw [List.cons_append, readDigits, readDigits]
    cases digit? c with
    | none => rfl
    | some d =>
      by_cases h : limit < 10 * acc + d
      · simp only [if_pos h]
        rfl
      · simp only [if_neg h]
        exact ih (10 * acc + d)

theorem readDigits_digitChar {acc d : Nat} (hd : d < 10) (h : 10 * acc + d ≤ limit) :
    readDigits limit excess acc [d.digitChar] = .ok (10 * acc + d) := by
  rw [readDigits, digit?_digitChar hd]
  simp only [if_neg (Nat.not_lt_of_le h)]
  rfl

theorem readDigits_ofNat (h : n ≤ limit) : readDigits limit excess 0 (ofNat n) = .ok n := by
  induction n using Nat.strongRecOn with
  | ind n ih =>
    by_cases hn : n < 10
    · rw [ofNat_of_lt hn, readDigits_digitChar hn (by omega)]
      exact congrArg Except.ok (by omega)
    · have hvalue : 10 * (n / 10) + n % 10 = n := Nat.div_add_mod n 10
      have hlast : n % 10 < 10 := Nat.mod_lt n (by decide)
      rw [ofNat_of_le (by omega), readDigits_append, ih (n / 10) (by omega) (by omega)]
      exact (readDigits_digitChar hlast (by omega)).trans (congrArg Except.ok hvalue)

theorem readNat_ofNat (h : n ≤ limit) : readNat limit (ofNat n) = .ok n := by
  obtain ⟨c, cs, hcs, hdigit⟩ := exists_cons_ofNat n
  have hread : readNat limit (c :: cs) = readDigits limit .tooLarge 0 (c :: cs) := by
    have hplus : c ≠ '+' := by
      rintro rfl
      exact absurd hdigit (by decide)
    rw [readNat.eq_def]
    split
    · contradiction
    · rename_i heq
      exact absurd (List.cons.inj heq).1 hplus
    · rename_i heq
      exact absurd (List.cons.inj heq).1 hplus
    · rfl
  rw [hcs, hread, ← hcs, readDigits_ofNat h]

theorem readInt64_ofNat (h : n < 2 ^ 63) : readInt64 (ofNat n) = .ok (n : Int) := by
  obtain ⟨c, cs, hcs, hdigit⟩ := exists_cons_ofNat n
  have hread : readInt64 (c :: cs) = (readNat (2 ^ 63 - 1) (c :: cs)).map fun n => (n : Int) := by
    have hminus : c ≠ '-' := by
      rintro rfl
      exact absurd hdigit (by decide)
    rw [readInt64.eq_def]
    split
    · rename_i heq
      exact absurd (List.cons.inj heq).1 hminus
    · rename_i heq
      exact absurd (List.cons.inj heq).1 hminus
    · rfl
  rw [hcs, hread, ← hcs, readNat_ofNat (Nat.le_sub_one_of_lt h)]
  rfl

theorem readUInt64_ofNat (value : UInt64) : readUInt64 (ofNat value.toNat) = .ok value := by
  have hvalue : value.toNat ≤ 2 ^ 64 - 1 := Nat.le_sub_one_of_lt value.toNat_lt
  rw [readUInt64, readNat_ofNat hvalue]
  exact congrArg Except.ok UInt64.ofNat_toNat

end Decimal

namespace CommandLine

namespace Settings

theorem readPort_ofNat (port : UInt16) :
    readPort (String.ofList (Decimal.ofNat port.toNat)) = .ok port := by
  have hport : port.toNat < 2 ^ 16 := port.toNat_lt
  rw [readPort, String.toList_ofList, Decimal.readInt64_ofNat (by omega)]
  simp only
  rw [if_pos (by omega), Int.toNat_natCast, UInt16.ofNat_toNat]

theorem readTime_ofNat (time : UInt64) :
    readTime (String.ofList (Decimal.ofNat time.toNat)) = .ok time := by
  rw [readTime, String.toList_ofList, Decimal.readUInt64_ofNat]
  rfl

def texts (s : Settings) : Opt → List String
  | .scheme => s.scheme.toList
  | .host => s.host.toList
  | .port => (s.port.map fun port => String.ofList (Decimal.ofNat port.toNat)).toList
  | .metricsPort => (s.metricsPort.map fun port => String.ofList (Decimal.ofNat port.toNat)).toList
  | .timeout => (s.timeout.map fun time => String.ofList (Decimal.ofNat time.toNat)).toList
  | .expectedVersion => s.expectedVersion.toList
  | .expectedNode => s.expectedNodes
  | .settle => (s.settle.map fun time => String.ofList (Decimal.ofNat time.toNat)).toList
  | .pollTimeout => (s.pollTimeout.map fun time => String.ofList (Decimal.ofNat time.toNat)).toList

/-- Whether a text is the value of an option as it is written: any text, or the numeral of a port or
of a time. -/
def Renders : Opt → String → Prop
  | .port, text | .metricsPort, text =>
    ∃ port : UInt16, text = String.ofList (Decimal.ofNat port.toNat)
  | .timeout, text | .settle, text | .pollTimeout, text =>
    ∃ time : UInt64, text = String.ofList (Decimal.ofNat time.toNat)
  | _, _ => True

variable {s : Settings} {o : Opt} {text : String}

theorem renders_of_mem_texts (h : text ∈ s.texts o) : Renders o text := by
  cases o with
  | port | metricsPort =>
    obtain ⟨port, -, rfl⟩ := Option.map_eq_some_iff.mp (Option.mem_toList.mp h)
    exact ⟨port, rfl⟩
  | timeout | settle | pollTimeout =>
    obtain ⟨time, -, rfl⟩ := Option.map_eq_some_iff.mp (Option.mem_toList.mp h)
    exact ⟨time, rfl⟩
  | _ => trivial

theorem has_eq (s : Settings) (o : Opt) : s.has o = !(s.texts o).isEmpty := by
  have hoption {α : Type} (a : Option α) : a.isSome = !a.toList.isEmpty := by
    cases a <;> rfl
  cases o <;> simp only [has, texts, ← hoption, Option.isSome_map]

theorem length_texts_le (s : Settings) (h : o.isRepeatable = false) : (s.texts o).length ≤ 1 := by
  have hoption {α : Type} (a : Option α) : a.toList.length ≤ 1 := by
    cases a <;> simp
  cases o with
  | expectedNode => cases h
  | _ => exact hoption _

theorem give_of_renders (h : Renders o text) (hfree : s.texts o = [] ∨ o.isRepeatable = true) :
    ∃ t, s.give o text = .ok t ∧ t.poll = s.poll ∧
      ∀ o', t.texts o' = s.texts o' ++ if o' = o then [text] else [] := by
  have hgive : s.give o text = (s.assign o text).mapError (.badValue o.label text) := by
    rw [give, if_neg]
    rcases hfree with hnone | hrepeatable
    · simp [has_eq, hnone]
    · simp [hrepeatable]
  have hnone (hsingle : o.isRepeatable = false) : s.texts o = [] := by
    rcases hfree with hnone | hrepeatable
    · exact hnone
    · rw [hsingle] at hrepeatable
      cases hrepeatable
  -- The other options keep their texts, since they are other fields.
  have htexts {t : Settings} (hsame : ∀ o', o' ≠ o → t.texts o' = s.texts o')
      (hown : t.texts o = s.texts o ++ [text]) (o' : Opt) :
      t.texts o' = s.texts o' ++ if o' = o then [text] else [] := by
    by_cases ho : o' = o
    · rw [if_pos ho, ho, hown]
    · rw [if_neg ho, List.append_nil, hsame o' ho]
  rw [hgive]
  cases o with
  | expectedNode =>
    refine ⟨_, rfl, rfl, htexts (fun o' ho => ?_) rfl⟩
    cases o' <;> first | rfl | exact absurd rfl ho
  | scheme | host | expectedVersion =>
    refine ⟨_, rfl, rfl, htexts (fun o' ho => ?_) ?_⟩
    · cases o' <;> first | rfl | exact absurd rfl ho
    · rw [hnone rfl]
      rfl
  | port | metricsPort =>
    obtain ⟨port, rfl⟩ := h
    rw [assign, readPort_ofNat]
    refine ⟨_, rfl, rfl, htexts (fun o' ho => ?_) ?_⟩
    · cases o' <;> first | rfl | exact absurd rfl ho
    · rw [hnone rfl]
      rfl
  | timeout | settle | pollTimeout =>
    obtain ⟨time, rfl⟩ := h
    rw [assign, readTime_ofNat]
    refine ⟨_, rfl, rfl, htexts (fun o' ho => ?_) ?_⟩
    · cases o' <;> first | rfl | exact absurd rfl ho
    · rw [hnone rfl]
      rfl

theorem givePoll_of_not (h : s.poll = false) :
    ∃ t, s.givePoll = .ok t ∧ t.poll = true ∧ ∀ o, t.texts o = s.texts o := by
  refine ⟨{ s with poll := true }, ?_, rfl, fun o => ?_⟩
  · rw [givePoll, h]
    rfl
  · cases o <;> rfl

theorem texts_overriddenBy (outer inner : Settings) (o : Opt) :
    (outer.overriddenBy inner).texts o =
      if inner.texts o = [] then outer.texts o else inner.texts o := by
  have hoption {α : Type} (a b : Option α) :
      (b.or a).toList = if b.toList = [] then a.toList else b.toList := by
    cases b <;> rfl
  have hmapped {α : Type} (render : α → String) (a b : Option α) :
      ((b.or a).map render).toList =
        if (b.map render).toList = [] then (a.map render).toList else (b.map render).toList := by
    rw [← hoption, Option.map_or]
  cases o with
  | scheme | host | expectedVersion => exact hoption _ _
  | expectedNode => rfl
  | _ => exact hmapped _ _ _

theorem eq_of_toList_eq {α : Type} {a b : Option α} (h : a.toList = b.toList) : a = b := by
  have hhead : a.toList.head? = b.toList.head? := congrArg List.head? h
  rwa [Option.head?_toList, Option.head?_toList] at hhead

theorem eq_of_numerals_eq {α : Type} {read : String → Except ValueFault α} {toNat : α → Nat}
    (hread : ∀ a, read (String.ofList (Decimal.ofNat (toNat a))) = .ok a) {a b : Option α}
    (h : (a.map fun a => String.ofList (Decimal.ofNat (toNat a))).toList =
      (b.map fun a => String.ofList (Decimal.ofNat (toNat a))).toList) : a = b := by
  have hrender : Function.Injective fun a => String.ofList (Decimal.ofNat (toNat a)) := by
    intro a b heq
    have hok : (.ok a : Except ValueFault α) = .ok b := by
      rw [← hread a, ← hread b]
      exact congrArg read heq
    exact Except.ok.inj hok
  exact Option.map_injective hrender (eq_of_toList_eq h)

theorem ext_texts {s t : Settings} (h : ∀ o, s.texts o = t.texts o) (hpoll : s.poll = t.poll) :
    s = t := by
  have hscheme := eq_of_toList_eq (h .scheme)
  have hhost := eq_of_toList_eq (h .host)
  have hport := eq_of_numerals_eq readPort_ofNat (h .port)
  have hmetricsPort := eq_of_numerals_eq readPort_ofNat (h .metricsPort)
  have htimeout := eq_of_numerals_eq readTime_ofNat (h .timeout)
  have hversion := eq_of_toList_eq (h .expectedVersion)
  have hnodes : s.expectedNodes = t.expectedNodes := h .expectedNode
  have hsettle := eq_of_numerals_eq readTime_ofNat (h .settle)
  have hpollTimeout := eq_of_numerals_eq readTime_ofNat (h .pollTimeout)
  cases s
  cases t
  simp only at hscheme hhost hport hmetricsPort htimeout hversion hnodes hsettle hpoll hpollTimeout
  subst hscheme hhost hport hmetricsPort htimeout hversion hnodes hsettle hpoll hpollTimeout
  rfl

end Settings

end CommandLine

end AnalyzerAdmin
