import AnalyzerAdmin.Client.Basic
import AnalyzerAdmin.Proofs.Numerals
import Mathlib.Data.List.TakeWhile
import Mathlib.Tactic.SplitIfs

/-!
# What is asked for behind a base

A URL is put together from a base and a path, which may have a query. No character of a plain path
means anything to the reader of URLs, so whatever the base is, a URL of the web without a fragment
asks for something that ends in this path, behind a beginning that the base alone decides
(`exists_target_append`).
-/

namespace AnalyzerAdmin

namespace Path

def nameLetters : List Char := "abcdefghijklmnopqrstuvwxyz_".toList

def written (names : List (List Char)) : List Char := names.flatMap ('/' :: ·)

def Plain (names : List (List Char)) : Prop := ∀ name ∈ names, ∀ c ∈ name, c ∈ nameLetters

instance (names : List (List Char)) : Decidable (Plain names) :=
  decidable_of_iff (names.all fun name => name.all fun c => decide (c ∈ nameLetters)) (by
    simp only [List.all_eq_true, decide_eq_true_eq, Plain])

theorem forall_nameLetters {p : Char → Prop} [DecidablePred p]
    (h : nameLetters.all (fun c => decide (p c)) = true) : ∀ c ∈ nameLetters, p c :=
  fun c hc => of_decide_eq_true (List.all_eq_true.mp h c hc)

variable {names : List (List Char)}

theorem Plain.forall_written {p : Char → Prop} (h : Plain names) (hslash : p '/')
    (hletter : ∀ c ∈ nameLetters, p c) : ∀ c ∈ written names, p c := by
  intro c hc
  obtain ⟨name, hname, hmem⟩ := List.mem_flatMap.mp hc
  rcases List.mem_cons.mp hmem with rfl | hmem
  · exact hslash
  · exact hletter c (h name hname c hmem)

theorem exists_written (hne : names ≠ []) : ∃ cs, written names = '/' :: cs := by
  cases names with
  | nil => exact absurd rfl hne
  | cons name names => exact ⟨_, rfl⟩

def queryLetters : List Char := nameLetters ++ "ABCDEFGHIJKLMNOPQRSTUVWXYZ0123456789=&,".toList

theorem forall_queryLetters {p : Char → Prop} [DecidablePred p]
    (h : queryLetters.all (fun c => decide (p c)) = true) : ∀ c ∈ queryLetters, p c :=
  fun c hc => of_decide_eq_true (List.all_eq_true.mp h c hc)

theorem mem_queryLetters_of_isDigit {c : Char} (h : Decimal.isDigit c = true) :
    c ∈ queryLetters := by
  rw [Decimal.isDigit, Decimal.digit?] at h
  split_ifs at h with hc
  · have hall : ∀ n ≤ 57, 48 ≤ n → Char.ofNat n ∈ queryLetters := by decide
    rw [← Char.ofNat_toNat c]
    exact hall c.toNat hc.2 hc.1
  · cases h

structure Reference where
  names : List (List Char)
  query : Option (List Char) := none

namespace Reference

def mark (r : Reference) : List Char :=
  match r.query with
  | some query => '?' :: query
  | none => []

def text (r : Reference) : List Char := written r.names ++ r.mark

theorem mark_cases (r : Reference) : r.mark = [] ∨ ∃ query, r.mark = '?' :: query := by
  rw [mark]
  cases r.query with
  | none => exact .inl rfl
  | some query => exact .inr ⟨query, rfl⟩

theorem query_of_mark (r : Reference) :
    (if r.mark = [] then none else some (r.mark.drop 1)) = r.query := by
  rw [mark]
  cases r.query with
  | none => rfl
  | some query => rfl

structure IsPlain (r : Reference) : Prop where
  some : r.names ≠ []
  names : Plain r.names
  query : ∀ query ∈ r.query, ∀ c ∈ query, c ∈ queryLetters

variable {r : Reference}

theorem IsPlain.forall_text {p : Char → Prop} (h : r.IsPlain) (hslash : p '/') (hmark : p '?')
    (hletter : ∀ c ∈ queryLetters, p c) : ∀ c ∈ r.text, p c := by
  intro c hc
  rcases List.mem_append.mp hc with hc | hc
  · have hname : ∀ c ∈ nameLetters, p c := fun c hc => hletter c (List.mem_append_left _ hc)
    exact h.names.forall_written hslash hname c hc
  · rw [mark] at hc
    split at hc
    · rename_i query hquery
      rcases List.mem_cons.mp hc with rfl | hc
      · exact hmark
      · exact hletter c (h.query query hquery c hc)
    · cases hc

theorem IsPlain.exists_text (h : r.IsPlain) : ∃ cs, r.text = '/' :: cs := by
  obtain ⟨cs, hcs⟩ := exists_written h.some
  exact ⟨cs ++ r.mark, by rw [text, hcs, List.cons_append]⟩

end Reference

theorem encode_of_forall {isEscaped : Char → Bool} {cs : List Char}
    (h : ∀ c ∈ cs, isEscaped c = false) : Percent.encode isEscaped cs = cs := by
  induction cs with
  | nil => rfl
  | cons c cs ih =>
    obtain ⟨hc, hcs⟩ := List.forall_mem_cons.mp h
    have hrest := ih hcs
    rw [Percent.encode] at hrest ⊢
    rw [List.flatMap_cons, hrest, if_neg (by simp [hc]), List.singleton_append]

theorem dropIgnored_append (cs ds : List Char) :
    dropIgnored (cs ++ ds) = dropIgnored cs ++ dropIgnored ds :=
  List.filter_append _ _

theorem Reference.IsPlain.dropIgnored_text {r : Reference} (h : r.IsPlain) :
    dropIgnored r.text = r.text :=
  List.filter_eq_self.mpr (h.forall_text (by decide) (by decide) (forall_queryLetters (by decide)))

theorem readName_of_letters {name : List Char} (h : ∀ c ∈ name, c ∈ nameLetters) :
    readName name = name := by
  have hkept : ∀ c ∈ nameLetters, (!isIgnored c) = true :=
    forall_nameLetters (by decide)
  have hplain : ∀ c ∈ nameLetters, Percent.inPath c = false :=
    forall_nameLetters (by decide)
  rw [readName, dropIgnored, List.filter_eq_self.mpr fun c hc => hkept c (h c hc),
    encode_of_forall fun c hc => hplain c (h c hc)]

theorem dots?_of_letters {name : List Char} (h : ∀ c ∈ name, c ∈ nameLetters) :
    dots? name = some 0 ∨ dots? name = none := by
  cases name with
  | nil => exact .inl rfl
  | cons c cs =>
    have hdots : ∀ c ∈ nameLetters, c ≠ '.' ∧ c ≠ '%' :=
    forall_nameLetters (by decide)
    obtain ⟨hdot, hpercent⟩ := hdots c (h c List.mem_cons_self)
    refine .inr ?_
    rw [dots?.eq_def]
    split <;> simp_all

theorem exists_resolve_cons (done : List Segment) (segment : List Char) :
    ∃ next, ∀ rest ≠ [], resolve false done (segment :: rest) = resolve false next rest := by
  have hmore {rest : List (List Char)} (h : rest ≠ []) : rest.isEmpty = false :=
    List.isEmpty_eq_false_iff.mpr h
  by_cases hone : dots? (readName segment) = some 1
  · refine ⟨done, fun rest hrest => ?_⟩
    rw [resolve, hone]
    simp only [hmore hrest, Bool.false_eq_true, if_false]
  by_cases htwo : dots? (readName segment) = some 2
  · refine ⟨takeBack done, fun rest hrest => ?_⟩
    rw [resolve, htwo]
    simp only [hmore hrest, Bool.false_eq_true, if_false]
  · refine ⟨.name (readName segment) :: done, fun rest hrest => ?_⟩
    rw [resolve]
    split
    · contradiction
    · contradiction
    · rfl

theorem exists_resolve_append (done : List Segment) (before : List (List Char)) :
    ∃ done', ∀ rest ≠ [], resolve false done (before ++ rest) = resolve false done' rest := by
  induction before generalizing done with
  | nil => exact ⟨done, fun _ _ => rfl⟩
  | cons segment before ih =>
    obtain ⟨next, hnext⟩ := exists_resolve_cons done segment
    obtain ⟨done', h⟩ := ih next
    refine ⟨done', fun rest hrest => ?_⟩
    rw [List.cons_append, hnext _ (List.append_ne_nil_of_right_ne_nil before hrest), h rest hrest]

theorem resolve_plain (h : Plain names) (done : List Segment) :
    resolve false done names = done.reverse ++ names.map .name := by
  induction names generalizing done with
  | nil => rw [resolve, List.map_nil, List.append_nil]
  | cons name names ih =>
    obtain ⟨hname, hnames⟩ := List.forall_mem_cons.mp h
    have hnext : resolve false done (name :: names) = resolve false (.name name :: done) names := by
      rw [resolve, readName_of_letters hname]
      rcases dots?_of_letters hname with hdots | hdots
      · rw [hdots]
        rfl
      · rw [hdots]
        rfl
    rw [hnext, ih hnames, List.reverse_cons, List.append_assoc, List.map_cons,
      List.singleton_append]

theorem render_ofSegments (segments : List Segment) :
    (ofSegments segments).render.toList = segments.flatMap fun s => '/' :: s.text := by
  simp only [ofSegments, render, String.toList_join, List.flatMap_map, String.toList_append,
    String.toList_ofList]
  rfl

theorem splitOnP_flatMap {isSeparator : Char → Bool} {separator : Char}
    (hseparator : isSeparator separator = true) {pieces : List (List Char)}
    (h : ∀ piece ∈ pieces, ∀ c ∈ piece, isSeparator c = false) (before : List Char) :
    (before ++ pieces.flatMap (separator :: ·)).splitOnP isSeparator =
      before.splitOnP isSeparator ++ pieces := by
  induction pieces generalizing before with
  | nil => rw [List.flatMap_nil, List.append_nil, List.append_nil]
  | cons piece pieces ih =>
    obtain ⟨hpiece, hpieces⟩ := List.forall_mem_cons.mp h
    have hrest : (piece ++ pieces.flatMap (separator :: ·)).splitOnP isSeparator =
        piece :: pieces := by
      rw [ih hpieces piece, List.splitOnP_eq_singleton hpiece, List.singleton_append]
    rw [List.flatMap_cons, List.cons_append, List.splitOnP_append_cons _ _ hseparator]
    exact congrArg _ hrest

theorem splitOnP_written {isSeparator : Char → Bool} (hslash : isSeparator '/' = true)
    (hletter : ∀ c ∈ nameLetters, isSeparator c = false) (h : Plain names) (before : List Char) :
    (before ++ written names).splitOnP isSeparator = before.splitOnP isSeparator ++ names :=
  splitOnP_flatMap hslash (fun name hname c hc => hletter c (h name hname c hc)) before

theorem exists_read_append (isSeparator : Char → Bool) (hslash : isSeparator '/' = true)
    (hletter : ∀ c ∈ nameLetters, isSeparator c = false) (before : List Char) :
    ∃ segments, (before = [] → segments = []) ∧ ∀ names, names ≠ [] → Plain names →
      read false [] isSeparator (before ++ written names) = segments ++ names.map .name := by
  have hresolve (done : List Segment) (segments : List (List Char)) :
      ∃ read, ∀ names, names ≠ [] → Plain names →
        resolve false done (segments ++ names) = read ++ names.map .name := by
    obtain ⟨done', h⟩ := exists_resolve_append done segments
    exact ⟨done'.reverse, fun names hne hnames => by rw [h names hne, resolve_plain hnames]⟩
  cases hbefore : before.dropWhile isIgnored with
  | nil =>
    -- The slash before the first name is the separator in front.
    refine ⟨[], fun _ => rfl, fun names hne hnames => ?_⟩
    obtain ⟨name, names, rfl⟩ := List.exists_cons_of_ne_nil hne
    obtain ⟨hname, hrest⟩ := List.forall_mem_cons.mp hnames
    have hread : (before ++ written (name :: names)).dropWhile isIgnored =
        '/' :: (name ++ written names) := by
      rw [List.dropWhile_append, hbefore]
      rfl
    have hsplit : (name ++ written names).splitOnP isSeparator = name :: names := by
      rw [splitOnP_written hslash hletter hrest,
        List.splitOnP_eq_singleton fun c hc => hletter c (hname c hc), List.singleton_append]
    rw [read, hread]
    simp only [hslash, if_true, hsplit]
    rw [resolve_plain hnames, List.reverse_nil]
  | cons c rest =>
    obtain ⟨segments, h⟩ := hresolve []
      ((if isSeparator c then rest else before).splitOnP isSeparator)
    have hnonempty : before ≠ [] := by
      rintro rfl
      cases hbefore
    refine ⟨segments, fun hempty => absurd hempty hnonempty, fun names hne hnames => ?_⟩
    have hread : (before ++ written names).dropWhile isIgnored = c :: (rest ++ written names) := by
      rw [List.dropWhile_append, hbefore]
      rfl
    rw [← h names hne hnames, ← splitOnP_written hslash hletter hnames, read, hread]
    by_cases hc : isSeparator c = true
    · simp only [hc, if_true]
    · simp only [hc, Bool.false_eq_true, if_false]

end Path

namespace Url

open AnalyzerAdmin.Path (Reference written forall_nameLetters queryLetters forall_queryLetters)

variable {cs tail : List Char}

theorem dropWhile_of_forall {p : Char → Bool} (h : ∀ c ∈ cs, p c = false) :
    cs.dropWhile p = cs := by
  cases cs with
  | nil => rfl
  | cons c cs => rw [List.dropWhile_cons_of_neg (by simp [h c List.mem_cons_self])]

theorem trim_append {text : String} (htext : text.toList = cs ++ tail) (hne : tail ≠ [])
    (h : ∀ c ∈ tail, 0x20 < c.toNat) :
    trim text = cs.dropWhile (fun c => decide (c.toNat ≤ 0x20)) ++ tail := by
  have hkept : ∀ c ∈ tail, decide (c.toNat ≤ 0x20) = false := fun c hc => by simp [h c hc]
  have hfront : (cs ++ tail).dropWhile (fun c => decide (c.toNat ≤ 0x20)) =
      cs.dropWhile (fun c => decide (c.toNat ≤ 0x20)) ++ tail := by
    rw [List.dropWhile_append, dropWhile_of_forall hkept]
    split_ifs with hempty
    · rw [List.isEmpty_iff.mp hempty, List.nil_append]
    · rfl
  have hrev : tail.reverse.dropWhile (fun c => decide (c.toNat ≤ 0x20)) = tail.reverse :=
    dropWhile_of_forall fun c hc => hkept c (List.mem_reverse.mp hc)
  rw [trim, htext, hfront, List.reverse_append, List.dropWhile_append, hrev,
    if_neg (by simp [hne]), List.reverse_append, List.reverse_reverse, List.reverse_reverse]

theorem scheme?_append (hcolon : ':' ∈ cs) (tail : List Char) :
    scheme? (cs ++ tail) = (scheme? cs).map fun p => (p.1, p.2 ++ tail) := by
  have hlength : ¬(cs.takeWhile (· ≠ ':')).length = cs.length := by
    intro h
    have hall := (List.takeWhile_prefix (· ≠ ':')).eq_of_length h
    have hne := List.takeWhile_eq_self_iff.mp hall ':' hcolon
    exact absurd hne (by decide)
  have hdrop : cs.dropWhile (· ≠ ':') ≠ [] := by
    intro h
    have hall := List.dropWhile_eq_nil_iff.mp h ':' hcolon
    exact absurd hall (by decide)
  rw [scheme?, scheme?, List.takeWhile_append, if_neg hlength, List.dropWhile_append,
    if_neg (by simpa using hdrop)]
  obtain ⟨d, ds, hds⟩ := List.exists_cons_of_ne_nil hdrop
  rw [hds]
  cases Path.dropIgnored (cs.takeWhile (· ≠ ':')) with
  | nil => rfl
  | cons c name =>
    simp only [List.cons_append]
    split_ifs <;> rfl

theorem mem_of_mem_splitLogin {c : Char} (h : c ∈ (splitLogin cs).2) : c ∈ cs := by
  rw [splitLogin] at h
  split_ifs at h
  · exact h
  · exact List.mem_reverse.mp (List.takeWhile_subset _ (List.mem_reverse.mp h))

theorem mem_of_mem_splitHost {c : Char} {inBrackets : Bool} (h : c ∈ (splitHost inBrackets cs).2) :
    c ∈ cs := by
  induction cs generalizing inBrackets with
  | nil => exact h
  | cons d cs ih =>
    rw [splitHost] at h
    split_ifs at h
    · exact h
    · exact List.mem_cons_of_mem _ (ih h)

theorem splitHost_cases (inBrackets : Bool) (cs : List Char) :
    (splitHost inBrackets cs).2 = [] ∨ ∃ ds, (splitHost inBrackets cs).2 = ':' :: ds := by
  induction cs generalizing inBrackets with
  | nil => exact .inl rfl
  | cons c cs ih =>
    rw [splitHost]
    split_ifs with hcolon
    · exact .inr ⟨cs, by rw [hcolon.1]⟩
    · exact ih _

theorem mem_of_readPort {scheme : String} {port : Option Nat} {behind : List Char}
    (h : readPort scheme cs = .ok (port, behind)) {c : Char} (hc : c ∈ behind) : c ∈ cs := by
  rw [readPort.eq_def] at h
  split at h
  · rename_i ds
    have hrest {c : Char} (hc : c ∈ ds.dropWhile Char.isDigit) : c ∈ ':' :: ds :=
      List.mem_cons_of_mem _ ((List.dropWhile_suffix _).mem hc)
    simp only at h
    split_ifs at h <;> cases h <;> exact hrest hc
  · cases h
    exact hc

theorem eq_nil_of_readPort {scheme : String} {port : Option Nat} {behind : List Char}
    (h : readPort scheme cs = .ok (port, behind)) (hcs : cs = [] ∨ ∃ ds, cs = ':' :: ds)
    (hbackslash : '\\' ∉ cs) : behind = [] := by
  rcases hcs with rfl | ⟨ds, rfl⟩
  · cases h
    rfl
  · have hrest {ds' : List Char} (hds : ds' ⊆ ds) (hhead : ds'.head?.all (· = '\\') = true) :
        ds' = [] := by
      cases ds' with
      | nil => rfl
      | cons c ds' =>
        have hc : c = '\\' := of_decide_eq_true hhead
        exact absurd (List.mem_cons_of_mem _ (hds (hc ▸ List.mem_cons_self))) hbackslash
    have hdigits := (List.dropWhile_suffix (l := ds) Char.isDigit).subset
    simp only [readPort] at h
    split_ifs at h with hbad hport
    · cases h
      exact hrest hdigits (by simpa using (not_or.mp hbad).2)
    · cases h
      exact hrest hdigits (by simpa using (not_or.mp hbad).2)

theorem readAuthority_eq (kind : Kind) (scheme : String) (text rest : List Char) :
    readAuthority kind scheme text rest =
      if (splitLogin text).1 = some [] ∧ (splitLogin text).2 = [] ∧ rest ≠ [] then .error .emptyHost
      else match kind.readHost (splitHost false (splitLogin text).2).1 with
        | .error fault => .error fault
        | .ok host =>
          if host = none ∧ (splitHost false (splitLogin text).2).2 ≠ [] then .error .emptyHost
          else match readPort scheme (splitHost false (splitLogin text).2).2 with
            | .error fault => .error fault
            | .ok (port, behind) =>
              if host = none ∧ readLogin ((splitLogin text).1.getD []) ≠ {} then .error .emptyHost
              else .ok (⟨readLogin ((splitLogin text).1.getD []), host, port⟩, behind ++ rest) := by
  simp only [readAuthority]
  by_cases hnobody : (splitLogin text).1 = some [] ∧ (splitLogin text).2 = [] ∧ rest ≠ []
  · rw [if_pos hnobody, if_pos hnobody]
    rfl
  rw [if_neg hnobody, if_neg hnobody]
  cases kind.readHost (splitHost false (splitLogin text).2).1 with
  | error fault => rfl
  | ok host =>
    by_cases hport : host = none ∧ (splitHost false (splitLogin text).2).2 ≠ []
    · simp only [if_pos hport]
      exact if_pos hport
    simp only [if_neg hport]
    refine (if_neg hport).trans ?_
    cases readPort scheme (splitHost false (splitLogin text).2).2 with
    | error fault => rfl
    | ok p =>
      by_cases hlogin : host = none ∧ readLogin ((splitLogin text).1.getD []) ≠ {}
      · simp only [if_pos hlogin]
        rfl
      · simp only [if_neg hlogin]
        rfl

theorem exists_readAuthority (kind : Kind) (scheme : String) (text : List Char) :
    ∃ r : Except UrlFault (Authority × List Char),
      (∀ rest ≠ [], readAuthority kind scheme text rest = r.map fun p => (p.1, p.2 ++ rest)) ∧
      ∀ p, r = .ok p → (∀ c ∈ p.2, c ∈ text) ∧ ('\\' ∉ text → p.2 = []) := by
  have hfault (fault : UrlFault)
      (h : ∀ rest ≠ [], readAuthority kind scheme text rest = .error fault) :
      ∃ r : Except UrlFault (Authority × List Char),
        (∀ rest ≠ [], readAuthority kind scheme text rest = r.map fun p => (p.1, p.2 ++ rest)) ∧
        ∀ p, r = .ok p → (∀ c ∈ p.2, c ∈ text) ∧ ('\\' ∉ text → p.2 = []) :=
    ⟨.error fault, h, fun p hp => by cases hp⟩
  by_cases hnobody : (splitLogin text).1 = some [] ∧ (splitLogin text).2 = []
  · refine hfault .emptyHost fun rest hrest => ?_
    rw [readAuthority_eq, if_pos ⟨hnobody.1, hnobody.2, hrest⟩]
  have hsome (rest : List Char) :
      ¬((splitLogin text).1 = some [] ∧ (splitLogin text).2 = [] ∧ rest ≠ []) :=
    fun h => hnobody ⟨h.1, h.2.1⟩
  cases hhost : kind.readHost (splitHost false (splitLogin text).2).1 with
  | error fault =>
    refine hfault fault fun rest _ => ?_
    rw [readAuthority_eq, if_neg (hsome rest), hhost]
  | ok host =>
    by_cases hport : host = none ∧ (splitHost false (splitLogin text).2).2 ≠ []
    · refine hfault .emptyHost fun rest _ => ?_
      rw [readAuthority_eq, if_neg (hsome rest), hhost]
      exact if_pos hport
    cases hbehind : readPort scheme (splitHost false (splitLogin text).2).2 with
    | error fault =>
      refine hfault fault fun rest _ => ?_
      rw [readAuthority_eq, if_neg (hsome rest), hhost, hbehind]
      exact if_neg hport
    | ok p =>
      by_cases hlogin : host = none ∧ readLogin ((splitLogin text).1.getD []) ≠ {}
      · refine hfault .emptyHost fun rest _ => ?_
        rw [readAuthority_eq, if_neg (hsome rest), hhost, hbehind]
        exact (if_neg hport).trans (if_pos hlogin)
      · refine ⟨.ok (⟨readLogin ((splitLogin text).1.getD []), host, p.1⟩, p.2), ?_, ?_⟩
        · intro rest _
          rw [readAuthority_eq, if_neg (hsome rest), hhost, hbehind]
          exact (if_neg hport).trans (if_neg hlogin)
        · have hmem {c : Char} (hc : c ∈ (splitHost false (splitLogin text).2).2) : c ∈ text :=
            mem_of_mem_splitLogin (mem_of_mem_splitHost hc)
          rintro _ ⟨⟩
          refine ⟨fun c hc => hmem (mem_of_readPort hbehind hc), fun hbackslash => ?_⟩
          exact eq_nil_of_readPort hbehind (splitHost_cases _ _) (mt hmem hbackslash)

/-- What stands behind the scheme of the web, up to a plain path, comes to an authority and to what
stands in front of the path. -/
theorem exists_readHosted (scheme : String) (cs : List Char) :
    ∃ r : Except UrlFault (Authority × List Char),
      (∀ path : Reference, path.IsPlain →
        readHosted .web scheme (cs ++ path.text) =
          r.map fun p => assemble .web scheme (some p.1) (Kind.readPath .web) (p.2 ++ path.text)) ∧
      ∀ p, r = .ok p → (∀ c ∈ p.2, c ∈ cs) ∧
        ((∀ c ∈ cs, Kind.endsAuthority .web c = false) → p.2 = []) := by
  have hlength :=
    (List.takeWhile_prefix (p := fun c => !Kind.endsAuthority .web c) (l := cs)).length_le
  obtain ⟨r, hread, hmem⟩ :=
    exists_readAuthority .web scheme (cs.takeWhile (!Kind.endsAuthority .web ·))
  refine ⟨r.map fun p =>
    (p.1, p.2 ++ cs.drop (cs.takeWhile (!Kind.endsAuthority .web ·)).length), ?_, ?_⟩
  · intro path hplain
    obtain ⟨tail, htail⟩ := hplain.exists_text
    have htext : (cs ++ path.text).takeWhile (!Kind.endsAuthority .web ·) =
        cs.takeWhile (!Kind.endsAuthority .web ·) := by
      rw [List.takeWhile_append, htail]
      split_ifs with hall
      · rw [List.takeWhile_cons_of_neg (by decide), List.append_nil,
          (List.takeWhile_prefix _).eq_of_length hall]
      · rfl
    have hdrop : (cs ++ path.text).drop (cs.takeWhile (!Kind.endsAuthority .web ·)).length =
        cs.drop (cs.takeWhile (!Kind.endsAuthority .web ·)).length ++ path.text :=
      List.drop_append_of_le_length hlength
    have hrest :
        cs.drop (cs.takeWhile (!Kind.endsAuthority .web ·)).length ++ path.text ≠ [] := by
      rw [htail]
      exact List.append_ne_nil_of_right_ne_nil _ (List.cons_ne_nil _ _)
    simp only [readHosted, htext, hdrop, hread _ hrest]
    cases r with
    | error fault => rfl
    | ok p =>
      simp only [Except.map, List.append_assoc]
      rfl
  · intro p hp
    cases r with
    | error fault => cases hp
    | ok q =>
      cases hp
      obtain ⟨hsubset, hnothing⟩ := hmem q rfl
      refine ⟨fun c hc => ?_, fun hclean => ?_⟩
      · rcases List.mem_append.mp hc with hc | hc
        · exact List.takeWhile_subset _ (hsubset c hc)
        · exact List.mem_of_mem_drop hc
      · have hall : cs.takeWhile (!Kind.endsAuthority .web ·) = cs :=
          List.takeWhile_eq_self_iff.mpr fun c hc => by rw [hclean c hc, Bool.not_false]
        have hbackslash : '\\' ∉ cs := fun hc => absurd (hclean _ hc) (by decide)
        rw [hall] at hnothing
        simp only [hall, hnothing hbackslash, List.drop_length, List.append_nil]

theorem takeWhile_ne_of_notMem {d : Char} (h : d ∉ cs) : cs.takeWhile (· ≠ d) = cs := by
  refine List.takeWhile_eq_self_iff.mpr fun c hc => decide_eq_true ?_
  rintro rfl
  exact h hc

theorem takeWhile_ne_append {d : Char} (h : d ∉ cs) (rest : List Char) :
    (cs ++ d :: rest).takeWhile (· ≠ d) = cs := by
  rw [List.takeWhile_append_of_pos, List.takeWhile_cons_of_neg (by simp), List.append_nil]
  intro c hc
  refine decide_eq_true ?_
  rintro rfl
  exact h hc

theorem splitTarget_of_path (hfragment : '#' ∉ cs ++ tail) (hquery : '?' ∉ cs)
    (htail : tail = [] ∨ ∃ query, tail = '?' :: query) :
    splitTarget (cs ++ tail) = (cs, if tail = [] then none else some (tail.drop 1), none) := by
  have hpath : (cs ++ tail).takeWhile (· ≠ '?') = cs := by
    rcases htail with rfl | ⟨query, rfl⟩
    · rw [List.append_nil, takeWhile_ne_of_notMem hquery]
    · exact takeWhile_ne_append hquery query
  simp only [splitTarget, takeWhile_ne_of_notMem hfragment, hpath, List.drop_length,
    List.drop_left, if_true]

theorem encode_text {path : Reference} (h : path.IsPlain) :
    Percent.encode (Percent.inQuery true) path.text = path.text :=
  Path.encode_of_forall
    (h.forall_text (by decide) (by decide) (forall_queryLetters (by decide)))

section Assemble

variable (scheme : String) (authority : Option Authority)

abbrev assembleWeb (cs : List Char) : Url := assemble .web scheme authority (Kind.readPath .web) cs

theorem notMem_append_text {path : Reference} (hfragment : '#' ∉ cs) (h : path.IsPlain) :
    '#' ∉ cs ++ path.text := by
  rw [List.mem_append, not_or]
  refine ⟨hfragment, fun hmem => ?_⟩
  exact h.forall_text (p := (· ≠ '#')) (by decide) (by decide) (forall_queryLetters (by decide))
    '#' hmem rfl

theorem exists_target_of_query {before after : List Char}
    (hfragment : '#' ∉ before ++ '?' :: after) (hbefore : '?' ∉ before) :
    ∃ front, ∀ path : Reference, path.IsPlain →
      (assembleWeb scheme authority (before ++ '?' :: after ++ path.text)).target.toList =
        front ++ path.text := by
  refine ⟨(Kind.readPath .web before).render.toList ++
    '?' :: Percent.encode (Percent.inQuery true) (Path.dropIgnored after), fun path hplain => ?_⟩
  have hclean := notMem_append_text hfragment hplain
  rw [List.append_assoc, List.cons_append] at hclean ⊢
  have hsplit : splitTarget (before ++ '?' :: (after ++ path.text)) =
      (before, some (after ++ path.text), none) :=
    splitTarget_of_path hclean hbefore (.inr ⟨_, rfl⟩)
  have hencode : Percent.encode (Percent.inQuery true) (Path.dropIgnored (after ++ path.text)) =
      Percent.encode (Percent.inQuery true) (Path.dropIgnored after) ++ path.text := by
    rw [Path.dropIgnored_append, hplain.dropIgnored_text, Percent.encode, List.flatMap_append]
    exact congrArg _ (encode_text hplain)
  simp only [assembleWeb, assemble, hsplit, target, Option.map_some, String.toList_append,
    String.toList_ofList]
  rw [List.append_assoc, List.cons_append]
  exact congrArg (fun query => (Kind.readPath .web before).render.toList ++ '?' :: query) hencode

theorem exists_target_of_path (hfragment : '#' ∉ cs) (hquery : '?' ∉ cs) :
    ∃ front, (cs = [] → front = []) ∧ ∀ path : Reference, path.IsPlain →
      (assembleWeb scheme authority (cs ++ path.text)).target.toList = front ++ path.text ∧
      (assembleWeb scheme authority (cs ++ path.text)).query = path.query.map String.ofList := by
  obtain ⟨segments, hnothing, hread⟩ :=
    Path.exists_read_append (Kind.isSlash .web) (by decide) (forall_nameLetters (by decide)) cs
  refine ⟨(Path.ofSegments segments).render.toList, fun hempty => ?_, fun path hplain => ?_⟩
  · rw [hnothing hempty]
    rfl
  have hnames : '?' ∉ cs ++ written path.names := by
    rw [List.mem_append, not_or]
    refine ⟨hquery, fun hmem => ?_⟩
    exact hplain.names.forall_written (p := (· ≠ '?')) (by decide)
      (forall_nameLetters (by decide)) '?' hmem rfl
  have hsplit : splitTarget (cs ++ path.text) = (cs ++ written path.names, path.query, none) := by
    have hclean := notMem_append_text hfragment hplain
    rw [Reference.text, ← List.append_assoc] at hclean ⊢
    rw [splitTarget_of_path hclean hnames path.mark_cases, path.query_of_mark]
  have hencode : path.query.map (fun query => String.ofList
      (Percent.encode (Percent.inQuery true) (Path.dropIgnored query))) =
      path.query.map String.ofList := by
    refine Option.map_congr fun query hsome => congrArg String.ofList ?_
    rw [Path.dropIgnored, List.filter_eq_self.mpr, Path.encode_of_forall]
    · exact fun c hc => forall_queryLetters (p := fun c => Percent.inQuery true c = false)
        (by decide) c (hplain.query query hsome c hc)
    · exact fun c hc => forall_queryLetters (p := fun c => (!Path.isIgnored c) = true)
        (by decide) c (hplain.query query hsome c hc)
  have hrender : (Kind.readPath .web (cs ++ written path.names)).render.toList =
      (Path.ofSegments segments).render.toList ++ written path.names := by
    rw [Kind.readPath, hread path.names hplain.some hplain.names, Path.render_ofSegments,
      Path.render_ofSegments, List.flatMap_append, List.flatMap_map]
    rfl
  have hwhole : (assembleWeb scheme authority (cs ++ path.text)).query =
      path.query.map String.ofList := by
    simp only [assembleWeb, assemble, hsplit]
    exact hencode
  have hpath : (assembleWeb scheme authority (cs ++ path.text)).path =
      Kind.readPath .web (cs ++ written path.names) := by
    simp only [assembleWeb, assemble, hsplit]
  refine ⟨?_, hwhole⟩
  rw [target, hwhole, hpath, String.toList_append, hrender, List.append_assoc]
  congr 1
  rw [Reference.text, Reference.mark]
  congr 1
  cases path.query with
  | none => rfl
  | some query =>
    simp only [Option.map_some, String.toList_append, String.toList_ofList]
    rfl

/-- What is asked for ends in the plain path that is read at the end, and its query is the whole
query unless the text in front of it has one. -/
theorem exists_target_assemble (hfragment : '#' ∉ cs) :
    ∃ front, (cs = [] → front = []) ∧ ∀ path : Reference, path.IsPlain →
      (assembleWeb scheme authority (cs ++ path.text)).target.toList = front ++ path.text ∧
      ('?' ∉ cs → (assembleWeb scheme authority (cs ++ path.text)).query =
        path.query.map String.ofList) := by
  by_cases hquery : '?' ∈ cs
  · obtain ⟨before, after, rfl, hbefore⟩ := List.eq_append_cons_of_mem hquery
    obtain ⟨front, htarget⟩ := exists_target_of_query scheme authority hfragment hbefore
    refine ⟨front, fun hempty => ?_, fun path hplain =>
      ⟨htarget path hplain, fun hnone => absurd hquery hnone⟩⟩
    exact absurd (List.append_eq_nil_iff.mp hempty).2 (List.cons_ne_nil _ _)
  · obtain ⟨front, hnothing, htarget⟩ := exists_target_of_path scheme authority hfragment hquery
    refine ⟨front, hnothing, fun path hplain => ?_⟩
    obtain ⟨hends, hwhole⟩ := htarget path hplain
    exact ⟨hends, fun _ => hwhole⟩

end Assemble

theorem scheme_of_readHosted {kind : Kind} {scheme : String} {u : Url}
    (h : readHosted kind scheme cs = .ok u) : u.scheme = scheme := by
  simp only [readHosted] at h
  cases hauthority : readAuthority kind scheme (cs.takeWhile (!kind.endsAuthority ·))
      (cs.drop (cs.takeWhile (!kind.endsAuthority ·)).length) with
  | error fault =>
    rw [hauthority] at h
    cases h
  | ok p =>
    rw [hauthority] at h
    cases h
    rfl

theorem scheme_of_readOther {scheme : String} {u : Url} (h : readOther scheme cs = .ok u) :
    u.scheme = scheme := by
  rw [readOther.eq_def] at h
  split at h
  · exact scheme_of_readHosted h
  · cases h
    rfl
  · cases h
    rfl

theorem scheme_of_readFile {u : Url} (h : readFile cs = .ok u) : u.scheme = "file" := by
  rw [readFile] at h
  split at h
  · cases h
    rfl
  · rename_i rest _
    simp only at h
    split_ifs at h
    · cases h
      rfl
    · cases hhost : readFileHost
          (Path.dropIgnored (rest.takeWhile (!Kind.endsAuthority .file ·))) with
      | error fault =>
        rw [hhost] at h
        cases h
      | ok host =>
        rw [hhost] at h
        cases h
        rfl

theorem readHosted_of_read {text : String} {u : Url} (h : read text = .ok u)
    (hweb : u.scheme = "http" ∨ u.scheme = "https") :
    ∃ rest, scheme? (trim text) = some (u.scheme, rest) ∧
      readHosted .web u.scheme ((Path.dropIgnored rest).dropWhile (Kind.isSlash .web)) = .ok u := by
  rw [read] at h
  cases hscheme : scheme? (trim text) with
  | none =>
    rw [hscheme] at h
    cases h
  | some p =>
    obtain ⟨scheme, rest⟩ := p
    rw [hscheme] at h
    have hkind : Kind.ofScheme u.scheme = .web := by
      rcases hweb with hweb | hweb <;> rw [hweb] <;> rfl
    cases hofScheme : Kind.ofScheme scheme with
    | web =>
      simp only [hofScheme] at h
      rw [scheme_of_readHosted h]
      exact ⟨rest, rfl, h⟩
    | file =>
      simp only [hofScheme] at h
      rw [scheme_of_readFile h] at hkind
      exact absurd hkind (by decide)
    | other =>
      simp only [hofScheme] at h
      rw [scheme_of_readOther h, hofScheme] at hkind
      cases hkind

theorem mem_dropWhile {p : Char → Bool} {c : Char} (h : c ∈ cs) (hc : p c = false) :
    c ∈ cs.dropWhile p := by
  rw [← List.takeWhile_append_dropWhile (p := p) (l := cs)] at h
  rcases List.mem_append.mp h with h | h
  · have hp := List.mem_takeWhile_imp h
    rw [hc] at hp
    cases hp
  · exact h

theorem mem_of_scheme? {scheme : String} {rest : List Char} (h : scheme? cs = some (scheme, rest))
    {c : Char} (hc : c ∈ rest) : c ∈ cs := by
  rw [scheme?] at h
  split at h
  · rename_i d name e rest' _ hdrop
    split_ifs at h
    cases h
    have hbehind : c ∈ cs.dropWhile (· ≠ ':') := by
      rw [hdrop]
      exact List.mem_cons_of_mem _ hc
    exact (List.dropWhile_suffix _).mem hbehind
  · cases h

theorem dropWhile_append_of_head {p : Char → Bool} {c : Char} (hc : p c = false)
    (cs tail : List Char) : (cs ++ c :: tail).dropWhile p = cs.dropWhile p ++ c :: tail := by
  rw [List.dropWhile_append, List.dropWhile_cons_of_neg (by simp [hc])]
  split_ifs with hempty
  · rw [List.isEmpty_iff.mp hempty, List.nil_append]
  · rfl

theorem rest_of_scheme? {scheme : String} {ds rest : List Char} (hcolon : ':' ∉ cs)
    (h : scheme? (cs ++ ':' :: ds) = some (scheme, rest)) : rest = ds := by
  have hdrop : (cs ++ ':' :: ds).dropWhile (· ≠ ':') = ':' :: ds := by
    rw [dropWhile_append_of_head (by decide), List.dropWhile_eq_nil_iff.mpr, List.nil_append]
    exact fun c hc => decide_eq_true fun heq => hcolon (heq ▸ hc)
  rw [scheme?, hdrop] at h
  split at h
  · rename_i heq
    split_ifs at h
    cases h
    exact (List.cons.inj heq).2.symm
  · cases h

/-- A base whose host goes up to its end: nothing behind the scheme ends the host. -/
def IsBare (base : List Char) : Prop :=
  ∃ scheme host, base = scheme ++ ':' :: '/' :: '/' :: host ∧ ':' ∉ scheme ∧
    ∀ c ∈ host, Kind.endsAuthority .web c = false

theorem IsBare.endsAuthority {base rest : List Char} {scheme : String} (h : IsBare base)
    (hscheme : scheme? (base.dropWhile fun c => decide (c.toNat ≤ 0x20)) = some (scheme, rest)) :
    ∀ c ∈ (Path.dropIgnored rest).dropWhile (Kind.isSlash .web),
      Kind.endsAuthority .web c = false := by
  obtain ⟨name, host, rfl, hcolon, hhost⟩ := h
  rw [dropWhile_append_of_head (by decide)] at hscheme
  obtain rfl := rest_of_scheme? (mt (List.dropWhile_suffix _).mem hcolon) hscheme
  intro c hc
  have hslashes : (Path.dropIgnored ('/' :: '/' :: host)).dropWhile (Kind.isSlash .web) =
      (Path.dropIgnored host).dropWhile (Kind.isSlash .web) := rfl
  rw [hslashes] at hc
  exact hhost c (List.mem_filter.mp ((List.dropWhile_suffix _).mem hc)).1

theorem exists_target_append {base port : List Char} (hcolon : ':' ∈ base)
    (hfragment : '#' ∉ base ++ ':' :: port) (hport : ∀ c ∈ port, Decimal.isDigit c = true) :
    ∃ front, (IsBare base → front = []) ∧ ∀ (path : Reference) text u, path.IsPlain →
      text.toList = base ++ ':' :: port ++ path.text →
      read text = .ok u → u.scheme = "http" ∨ u.scheme = "https" →
      u.target.toList = front ++ path.text ∧
      ('?' ∉ base ++ ':' :: port → u.query = path.query.map String.ofList) := by
  have hport {p : Char → Prop} [DecidablePred p] (hmark : p ':')
      (h : queryLetters.all (fun c => decide (p c)) = true) : ∀ c ∈ ':' :: port, p c :=
    List.forall_mem_cons.mpr ⟨hmark, fun c hc =>
      forall_queryLetters h c (Path.mem_queryLetters_of_isDigit (hport c hc))⟩
  have hcolon' : ':' ∈ base.dropWhile (fun c => decide (c.toNat ≤ 0x20)) :=
    mem_dropWhile hcolon (by decide)
  have hkept : Path.dropIgnored (':' :: port) = ':' :: port := by
    refine List.filter_eq_self.mpr fun c hc => ?_
    have hvisible := hport (p := fun c => 0x20 < c.toNat) (by decide) (by decide) c hc
    rw [Bool.not_eq_true', Bool.eq_false_iff]
    intro hignored
    simp only [Path.isIgnored, Bool.or_eq_true, decide_eq_true_eq] at hignored
    rcases hignored with (rfl | rfl) | rfl <;> exact absurd hvisible (by decide)
  have hread {path : Reference} {text : String} {u : Url} (hplain : path.IsPlain)
      (htext : text.toList = base ++ ':' :: port ++ path.text)
      (hu : read text = .ok u) (hweb : u.scheme = "http" ∨ u.scheme = "https") :
      ∃ rest, scheme? (base.dropWhile (fun c => decide (c.toNat ≤ 0x20))) = some (u.scheme, rest) ∧
        readHosted .web u.scheme
          ((Path.dropIgnored rest).dropWhile (Kind.isSlash .web) ++ ':' :: port ++ path.text) =
            .ok u := by
    obtain ⟨behind, hscheme, hhosted⟩ := readHosted_of_read hu hweb
    rw [List.append_assoc] at htext
    have hvisible : ∀ c ∈ ':' :: port ++ path.text, 0x20 < c.toNat := by
      intro c hc
      rcases List.mem_append.mp hc with hc | hc
      · exact hport (p := fun c => 0x20 < c.toNat) (by decide) (by decide) c hc
      · exact hplain.forall_text (p := fun c => 0x20 < c.toNat) (by decide) (by decide)
          (forall_queryLetters (by decide)) c hc
    rw [trim_append htext (by simp) hvisible, scheme?_append hcolon'] at hscheme
    obtain ⟨⟨scheme, rest⟩, hrest, heq⟩ := Option.map_eq_some_iff.mp hscheme
    cases heq
    refine ⟨rest, hrest, ?_⟩
    rw [Path.dropIgnored_append, Path.dropIgnored_append, hkept, hplain.dropIgnored_text,
      List.cons_append, dropWhile_append_of_head (by decide)] at hhosted
    rw [List.append_assoc, List.cons_append]
    exact hhosted
  cases hscheme : scheme? (base.dropWhile (fun c => decide (c.toNat ≤ 0x20))) with
  | none =>
    refine ⟨[], fun _ => rfl, fun path text u hplain htext hu hweb => ?_⟩
    obtain ⟨rest, hsome, -⟩ := hread hplain htext hu hweb
    rw [hscheme] at hsome
    cases hsome
  | some p =>
    obtain ⟨scheme, rest⟩ := p
    obtain ⟨r, hhosted, hmem⟩ := exists_readHosted scheme
      ((Path.dropIgnored rest).dropWhile (Kind.isSlash .web) ++ ':' :: port)
    have hresult {path : Reference} {text : String} {u : Url} (hplain : path.IsPlain)
        (htext : text.toList = base ++ ':' :: port ++ path.text)
        (hu : read text = .ok u) (hweb : u.scheme = "http" ∨ u.scheme = "https") :
        (r.map fun p => assembleWeb scheme (some p.1) (p.2 ++ path.text)) = .ok u := by
      obtain ⟨_, hsome, hok⟩ := hread hplain htext hu hweb
      rw [hscheme] at hsome
      cases hsome
      rw [← hhosted path hplain]
      exact hok
    cases r with
    | error fault =>
      exact ⟨[], fun _ => rfl, fun path text u hplain htext hu hweb => by
        cases hresult hplain htext hu hweb⟩
    | ok p =>
      obtain ⟨hsubset, hnothing⟩ := hmem p rfl
      -- What is left of the base has no character that the base has not.
      have hleft {c : Char} (hc : c ∈ p.2) : c ∈ base ++ ':' :: port := by
        refine List.mem_append.mpr ?_
        rcases List.mem_append.mp (hsubset c hc) with hc | hc
        · have hignored := (List.dropWhile_suffix _).mem hc
          have hrest := mem_of_scheme? hscheme (List.mem_filter.mp hignored).1
          exact .inl ((List.dropWhile_suffix _).mem hrest)
        · exact .inr hc
      obtain ⟨front, hempty, htarget⟩ :=
        exists_target_assemble scheme (some p.1) (mt hleft hfragment)
      refine ⟨front, fun hbare => hempty (hnothing fun c hc => ?_),
        fun path text u hplain htext hu hweb => ?_⟩
      · rcases List.mem_append.mp hc with hc | hc
        · exact hbare.endsAuthority hscheme c hc
        · exact hport (p := fun c => Kind.endsAuthority .web c = false) (by decide) (by decide) c hc
      cases hresult hplain htext hu hweb
      obtain ⟨hends, hwhole⟩ := htarget path hplain
      exact ⟨hends, fun hquery => hwhole (mt hleft hquery)⟩

end Url

theorem Session.read_of_checkUrl {text : String} {url : Url} {credentials : Option Credentials}
    (h : checkUrl text = .ok (url, credentials)) :
    ∃ u, Url.read text = .ok u ∧ (u.scheme = "http" ∨ u.scheme = "https") ∧
      u.target = url.target ∧ u.query = url.query := by
  rw [checkUrl] at h
  cases hread : Url.read text with
  | error fault =>
    rw [hread] at h
    cases h
  | ok u =>
    rw [hread] at h
    simp only at h
    have hweb {v : Url} (hv : v.scheme = u.scheme) (h : ¬(v.scheme ≠ "http" ∧ v.scheme ≠ "https")) :
        u.scheme = "http" ∨ u.scheme = "https" := by
      rw [hv] at h
      exact or_iff_not_and_not.mpr h
    split_ifs at h with _ hsome hscheme _ hscheme
    · obtain ⟨hurl, -⟩ := Prod.mk.inj (Except.ok.inj h)
      rw [← hurl]
      exact ⟨u, rfl, hweb rfl hscheme, rfl, rfl⟩
    · obtain ⟨hurl, -⟩ := Prod.mk.inj (Except.ok.inj h)
      rw [← hurl]
      exact ⟨u, rfl, hweb rfl hscheme, rfl, rfl⟩

namespace Address

open AnalyzerAdmin.Path (Reference)

structure IsBare (a : Address) : Prop where
  scheme : ':' ∉ a.scheme.toList
  hostname : ∀ c ∈ a.hostname.toList, c ≠ '/' ∧ c ≠ '\\' ∧ c ≠ '?' ∧ c ≠ '#'

/-- Where a base has no fragment, all that is asked for behind it begins alike, and with the path if
the address is bare; and where it has no query either, the query is that of the path. -/
theorem exists_target_append (a : Address) (port : UInt16)
    (hfragment : '#' ∉ (a.base port).toList) :
    ∃ front, (a.IsBare → front = []) ∧ ∀ (path : Reference) url credentials, path.IsPlain →
      Session.checkUrl (a.base port ++ String.ofList path.text) = .ok (url, credentials) →
      url.target.toList = front ++ path.text ∧
      ('?' ∉ (a.base port).toList → url.query = path.query.map String.ofList) := by
  have hbase : (a.base port).toList =
      (a.scheme ++ "://" ++ a.hostname).toList ++ ':' :: Decimal.ofNat port.toNat := by
    simp only [base, String.toList_append, String.toList_ofList, List.append_assoc]
    rfl
  have hcolon : ':' ∈ (a.scheme ++ "://" ++ a.hostname).toList := by
    simp only [String.toList_append, List.mem_append]
    exact .inl (.inr (by decide))
  have hbare (h : a.IsBare) : Url.IsBare (a.scheme ++ "://" ++ a.hostname).toList := by
    refine ⟨a.scheme.toList, a.hostname.toList, ?_, h.scheme, fun c hc => ?_⟩
    · simp only [String.toList_append, List.append_assoc]
      rfl
    · obtain ⟨hslash, hbackslash, hquery, hfragment⟩ := h.hostname c hc
      simp [Url.Kind.endsAuthority, Url.Kind.isSlash, hslash, hbackslash, hquery, hfragment]
  rw [hbase] at hfragment ⊢
  obtain ⟨front, hempty, htarget⟩ :=
    Url.exists_target_append hcolon hfragment (Decimal.isDigit_of_mem_ofNat _)
  refine ⟨front, fun h => hempty (hbare h), fun path url credentials hplain h => ?_⟩
  obtain ⟨u, hread, hweb, hu, hquery⟩ := Session.read_of_checkUrl h
  rw [← hu, ← hquery]
  refine htarget path _ u hplain ?_ hread hweb
  rw [String.toList_append, hbase, String.toList_ofList]

end Address

end AnalyzerAdmin
