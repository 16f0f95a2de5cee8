import AnalyzerAdmin.Client.Metrics
import AnalyzerAdmin.Proofs.OptionValues
import AnalyzerAdmin.Proofs.Target

/-!
# The query for batch metrics

A query is read by splitting it at ampersands and each part at its first equals sign. What is read
of the query for batch metrics is its fixed parameter, the window, and the options that are given,
so the query tells them apart (`Carries.unique`).
-/

namespace AnalyzerAdmin

def splitPart (part : List Char) : String × String :=
  (String.ofList (part.takeWhile (· ≠ '=')), String.ofList ((part.dropWhile (· ≠ '=')).drop 1))

def queryParameters (query : String) : List (String × String) :=
  (query.toList.splitOnP (· = '&')).map splitPart

def numberOf? (parameters : List (String × String)) (name : String) : Option UInt64 :=
  (parameters.lookup name).bind fun value => (Decimal.readUInt64 value.toList).toOption

/-- Parameters are the fixed one, those of a window and those of options, in this order. -/
structure Carries (parameters : List (String × String)) (window : Window)
    (options : BatchOptions) : Prop where
  names : parameters.map Prod.fst = ["metrics", "starttime", "endtime"] ++
    (options.period.map fun _ => "period").toList ++
    (options.maxDatapoints.map fun _ => "maxdatapoints").toList
  metrics : parameters.lookup "metrics" = some "Latency,CPU_Utilization"
  start : numberOf? parameters "starttime" = some window.start
  stop : numberOf? parameters "endtime" = some window.stop
  period : numberOf? parameters "period" = options.period
  maxDatapoints : numberOf? parameters "maxdatapoints" = options.maxDatapoints

theorem Carries.unique {parameters : List (String × String)} {window window' : Window}
    {options options' : BatchOptions} (h : Carries parameters window options)
    (h' : Carries parameters window' options') : window = window' ∧ options = options' := by
  obtain ⟨start, stop⟩ := window
  obtain ⟨period, maxDatapoints⟩ := options
  obtain rfl := Option.some.inj (h.start.symm.trans h'.start)
  obtain rfl := Option.some.inj (h.stop.symm.trans h'.stop)
  obtain rfl := h.period.symm.trans h'.period
  obtain rfl := h.maxDatapoints.symm.trans h'.maxDatapoints
  exact ⟨rfl, rfl⟩

def metricsPart : List Char := "metrics=Latency,CPU_Utilization".toList

def numberPart (name : String) (value : UInt64) : List Char :=
  name.toList ++ '=' :: Decimal.ofNat value.toNat

def batchParts (window : Window) (options : BatchOptions) : List (List Char) :=
  [numberPart "starttime" window.start, numberPart "endtime" window.stop] ++
    (options.period.map (numberPart "period")).toList ++
    (options.maxDatapoints.map (numberPart "maxdatapoints")).toList

def batchQuery (window : Window) (options : BatchOptions) : List Char :=
  metricsPart ++ (batchParts window options).flatMap ('&' :: ·)

def batchNames : List (List Char) :=
  ["_opendistro".toList, "_performanceanalyzer".toList, "batch".toList]

def batchReference (window : Window) (options : BatchOptions) : Path.Reference :=
  ⟨batchNames, some (batchQuery window options)⟩

theorem toList_parameter (name : String) (value : UInt64) :
    (parameter name value).toList = '&' :: numberPart name value := by
  simp only [parameter, numberPart, String.toList_append, String.toList_ofList, List.append_assoc]
  rfl

theorem toList_optionalParameter (name : String) (value : Option UInt64) :
    (optionalParameter name value).toList =
      (value.map (numberPart name)).toList.flatMap ('&' :: ·) := by
  cases value with
  | none => rfl
  | some n => simpa [optionalParameter] using toList_parameter name n

theorem batchPath_eq (window : Window) (options : BatchOptions) :
    batchPath window options = String.ofList (batchReference window options).text := by
  have hfront : analyzerPath.toList ++ "/batch?metrics=Latency,CPU_Utilization".toList =
      Path.written batchNames ++ '?' :: metricsPart := by decide
  apply String.toList_inj.mp
  simp only [batchPath, String.toList_append, toList_parameter, toList_optionalParameter, hfront,
    String.toList_ofList, Path.Reference.text, Path.Reference.mark, batchReference, batchQuery,
    batchParts, List.flatMap_append, List.flatMap_cons, List.nil_append,
    List.append_assoc, List.cons_append]

theorem mem_numberPart {name : String} {value : UInt64} {c : Char}
    (hname : Path.Plain [name.toList]) (h : c ∈ numberPart name value) :
    c ∈ Path.queryLetters ∧ c ≠ '&' := by
  have hletters := hname _ (List.mem_singleton_self _)
  rcases List.mem_append.mp h with h | h
  · refine ⟨List.mem_append_left _ (hletters c h), ?_⟩
    rintro rfl
    exact absurd (hletters _ h) (by decide)
  · rcases List.mem_cons.mp h with rfl | h
    · decide
    · have hdigit := Decimal.isDigit_of_mem_ofNat _ c h
      refine ⟨Path.mem_queryLetters_of_isDigit hdigit, ?_⟩
      rintro rfl
      cases hdigit

theorem exists_of_mem_batchParts {window : Window} {options : BatchOptions} {part : List Char}
    (h : part ∈ batchParts window options) :
    ∃ name value, Path.Plain [name.toList] ∧ part = numberPart name value := by
  simp only [batchParts, List.mem_append, List.mem_cons, List.not_mem_nil, or_false,
    Option.mem_toList, Option.map_eq_some_iff] at h
  rcases h with ((rfl | rfl) | ⟨n, -, rfl⟩) | ⟨n, -, rfl⟩
  · exact ⟨_, _, by decide, rfl⟩
  · exact ⟨_, _, by decide, rfl⟩
  · exact ⟨_, _, by decide, rfl⟩
  · exact ⟨_, _, by decide, rfl⟩

theorem mem_batchParts {window : Window} {options : BatchOptions} {part : List Char}
    (h : part ∈ batchParts window options) {c : Char} (hc : c ∈ part) :
    c ∈ Path.queryLetters ∧ c ≠ '&' := by
  obtain ⟨name, value, hname, rfl⟩ := exists_of_mem_batchParts h
  exact mem_numberPart hname hc

theorem plain_batchReference (window : Window) (options : BatchOptions) :
    (batchReference window options).IsPlain := by
  have hnames : Path.Plain batchNames := by decide
  have hfirst : metricsPart.all Path.queryLetters.contains = true := by decide
  refine ⟨List.cons_ne_nil _ _, hnames, ?_⟩
  rintro _ ⟨⟩ c hc
  rcases List.mem_append.mp hc with hc | hc
  · exact List.contains_iff_mem.mp (List.all_eq_true.mp hfirst c hc)
  · obtain ⟨part, hpart, hc⟩ := List.mem_flatMap.mp hc
    rcases List.mem_cons.mp hc with rfl | hc
    · decide
    · exact (mem_batchParts hpart hc).1

theorem splitPart_numberPart {name : String} (h : '=' ∉ name.toList) (value : UInt64) :
    splitPart (numberPart name value) = (name, String.ofList (Decimal.ofNat value.toNat)) := by
  have hkept : ∀ c ∈ name.toList, decide (c ≠ '=') = true := by
    intro c hc
    refine decide_eq_true ?_
    rintro rfl
    exact h hc
  rw [splitPart, numberPart, Url.takeWhile_ne_append h, List.dropWhile_append_of_pos hkept,
    List.dropWhile_cons_of_neg (by decide), String.ofList_toList]
  rfl

theorem queryParameters_batch (window : Window) (options : BatchOptions) :
    queryParameters (String.ofList (batchQuery window options)) =
      [("metrics", "Latency,CPU_Utilization"),
        ("starttime", String.ofList (Decimal.ofNat window.start.toNat)),
        ("endtime", String.ofList (Decimal.ofNat window.stop.toNat))] ++
      (options.period.map fun n => ("period", String.ofList (Decimal.ofNat n.toNat))).toList ++
      (options.maxDatapoints.map fun n =>
        ("maxdatapoints", String.ofList (Decimal.ofNat n.toNat))).toList := by
  have hparts : ∀ part ∈ batchParts window options, ∀ c ∈ part, decide (c = '&') = false :=
    fun part hpart c hc => decide_eq_false (mem_batchParts hpart hc).2
  have hfirst : metricsPart.splitOnP (· = '&') = [metricsPart] := by decide
  rw [queryParameters, String.toList_ofList, batchQuery,
    Path.splitOnP_flatMap (by decide) hparts, hfirst, batchParts]
  have hmetrics : splitPart metricsPart = ("metrics", "Latency,CPU_Utilization") := by decide
  have hperiod : splitPart ∘ numberPart "period" =
      fun n => ("period", String.ofList (Decimal.ofNat n.toNat)) :=
    funext (splitPart_numberPart (by decide))
  have hmax : splitPart ∘ numberPart "maxdatapoints" =
      fun n => ("maxdatapoints", String.ofList (Decimal.ofNat n.toNat)) :=
    funext (splitPart_numberPart (by decide))
  have hstart := splitPart_numberPart (show '=' ∉ "starttime".toList by decide)
  have hstop := splitPart_numberPart (show '=' ∉ "endtime".toList by decide)
  simp only [List.map_append, List.map_cons, List.map_nil, hmetrics, hstart, hstop,
    ← Option.toList_map, Option.map_map, hperiod, hmax]
  rfl

theorem carries_batchQuery (window : Window) (options : BatchOptions) :
    Carries (queryParameters (String.ofList (batchQuery window options))) window options := by
  have hnumber (value : UInt64) : (Decimal.readUInt64
      (String.ofList (Decimal.ofNat value.toNat)).toList).toOption = some value := by
    rw [String.toList_ofList, Decimal.readUInt64_ofNat]
    rfl
  rw [queryParameters_batch]
  rcases options with ⟨_ | period, _ | maxDatapoints⟩
  · exact ⟨rfl, rfl, hnumber _, hnumber _, rfl, rfl⟩
  · exact ⟨rfl, rfl, hnumber _, hnumber _, rfl, hnumber _⟩
  · exact ⟨rfl, rfl, hnumber _, hnumber _, hnumber _, rfl⟩
  · exact ⟨rfl, rfl, hnumber _, hnumber _, hnumber _, hnumber _⟩

theorem text_batchReference (window : Window) (options : BatchOptions) :
    String.ofList (batchReference window options).text =
      "/_opendistro/_performanceanalyzer/batch?" ++ String.ofList (batchQuery window options) := by
  have hpath : Path.written batchNames ++ ['?'] =
      "/_opendistro/_performanceanalyzer/batch?".toList := by decide
  have hquery : (String.ofList (batchQuery window options)).toList = batchQuery window options :=
    String.toList_ofList
  apply String.toList_inj.mp
  rw [String.toList_append, ← hpath, hquery, List.append_assoc]
  exact String.toList_ofList

theorem batchQuery_injective {window window' : Window} {options options' : BatchOptions}
    (h : batchQuery window options = batchQuery window' options') :
    window = window' ∧ options = options' := by
  have hcarries := carries_batchQuery window options
  rw [h] at hcarries
  exact hcarries.unique (carries_batchQuery window' options')

theorem batchReference_injective {window window' : Window} {options options' : BatchOptions}
    (h : (batchReference window options).text = (batchReference window' options').text) :
    window = window' ∧ options = options' :=
  batchQuery_injective (List.cons.inj (List.append_cancel_left h)).2

end AnalyzerAdmin
