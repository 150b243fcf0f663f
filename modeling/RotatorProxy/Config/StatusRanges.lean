import RotatorProxy.Config.AppConfig
import RotatorProxy.Library.Outcome
import RotatorProxy.Text.Split

/-! The list of status codes that a health check expects, as the configuration spells it. -/
namespace RotatorProxy.Config
open Text Library

def StatusRange.contains (range : StatusRange) (status : UInt16) : Bool := decide (range.start ≤ status ∧ status ≤ range.stop)

/-- Codes of HTTP, the first one not behind the last one. -/
structure StatusRange.Valid (range : StatusRange) : Prop where
  start : 100 ≤ range.start
  order : range.start ≤ range.stop
  stop : range.stop ≤ 599

/-- A range as the configuration has it -/
def StatusRange.text (range : StatusRange) : Str := decimal range.start.toNat++ '-'::decimal range.stop.toNat

def expectedStatusText (ranges : List StatusRange) : Str := [','].intercalate (ranges.map StatusRange.text)

lemma parseHttpStatusCode_ok {value : Str} {status : UInt16} (h : parseHttpStatusCode value = .ok status) :
    100 ≤ status ∧ status ≤ 599 := by
  unfold parseHttpStatusCode at h
  cases hparse : parseU16 value with
  | none =>
    rw [hparse] at h
    cases h
  | some code =>
    rw [hparse] at h
    dsimp only at h
    split_ifs at h with hcode
    cases h
    exact hcode

lemma parseHttpStatusCode_decimal {status : UInt16} (hlo : 100 ≤ status) (hhi : status ≤ 599) :
    parseHttpStatusCode (decimal status.toNat) = .ok status := by
  unfold parseHttpStatusCode
  rw [parseU16_decimal]
  exact if_pos ⟨hlo,hhi⟩

lemma parseStatusRange_ok {value : Str} {range : StatusRange} (h : parseStatusRange value = .ok range) : range.Valid := by
  unfold parseStatusRange at h
  simp only [bind,bind_eq_ok] at h
  obtain ⟨start,hstart,stop,hstop,h⟩ := h
  split_ifs at h with horder
  cases h
  exact ⟨(parseHttpStatusCode_ok hstart).1,UInt16.not_lt.mp horder,(parseHttpStatusCode_ok hstop).2⟩

lemma parseStatusRange_text {range : StatusRange} (h : range.Valid) : parseStatusRange range.text = .ok range := by
  have hsplit : splitOnce '-' range.text=some (decimal range.start.toNat,decimal range.stop.toNat) :=
    splitOnce_append (notMem_decimal (by decide) _) _
  have hstart := parseHttpStatusCode_decimal h.start (UInt16.le_trans h.order h.stop)
  have hstop := parseHttpStatusCode_decimal (UInt16.le_trans h.start h.order) h.stop
  unfold parseStatusRange
  rw [hsplit,Option.getD_some]
  simp only [bind,Except.bind,hstart,hstop]
  exact if_neg (UInt16.not_lt.mpr h.order)

lemma text_ne_nil (range : StatusRange) : range.text ≠ [] := List.append_ne_nil_of_left_ne_nil (decimal_ne_nil _) _

lemma text_noSpace (range : StatusRange) : ∀ c ∈ range.text, isWhitespace c=false := by
  intro c hc
  unfold StatusRange.text at hc
  rcases List.mem_append.mp hc with hc | hc
  · exact decimal_noSpace _ c hc
  rcases List.mem_cons.mp hc with rfl | hc
  · decide
  · exact decimal_noSpace _ c hc

lemma comma_notMem_text (range : StatusRange) : ',' ∉ range.text := by
  unfold StatusRange.text
  rw [List.mem_append,List.mem_cons,not_or,not_or]
  exact ⟨notMem_decimal (by decide) _,by decide,notMem_decimal (by decide) _⟩

lemma expectedStatusText_noSpace (ranges : List StatusRange) : ∀ c ∈ expectedStatusText ranges, isWhitespace c=false := by
  intro c hc
  obtain rfl | ⟨_,hpart,hc⟩ := of_mem_intercalate hc
  · decide
  · obtain ⟨range,-,rfl⟩ := List.mem_map.mp hpart
    exact text_noSpace range c hc

/-- The parts of a spelling are its ranges. -/
lemma splitOn_expectedStatusText {ranges : List StatusRange} (hne : ranges ≠ []) :
    (expectedStatusText ranges).splitOn ','=ranges.map StatusRange.text := by
  refine List.splitOn_intercalate ',' (fun text htext => ?_) (by simpa using hne)
  obtain ⟨range,-,rfl⟩ := List.mem_map.mp htext
  exact comma_notMem_text range

lemma parseHealthCheckExpectedStatus_text {ranges : List StatusRange} (hne : ranges ≠ [])
    (hvalid : ∀ range ∈ ranges, range.Valid) :
    parseHealthCheckExpectedStatus (expectedStatusText ranges) = .ok ranges := by
  have htrim := trim_eq_self (expectedStatusText_noSpace ranges)
  have hnonempty : expectedStatusText ranges ≠ [] := by
    intro hnil
    have hparts := splitOn_expectedStatusText hne
    rw [hnil,List.splitOn_nil] at hparts
    have hmem : [] ∈ ranges.map StatusRange.text := by
      rw [← hparts]
      exact List.mem_singleton_self []
    obtain ⟨range,-,htext⟩ := List.mem_map.mp hmem
    exact text_ne_nil range htext
  have htrims : (ranges.map StatusRange.text).map trim=ranges.map StatusRange.text := by
    rw [List.map_map]
    exact List.map_congr_left fun range _ => trim_eq_self (text_noSpace range)
  have hparts : ((((expectedStatusText ranges).splitOn ',').map trim).filter (fun part => decide (part ≠ [])))=
      ranges.map StatusRange.text := by
    rw [splitOn_expectedStatusText hne,htrims,List.filter_eq_self]
    intro text htext
    obtain ⟨range,-,rfl⟩ := List.mem_map.mp htext
    exact decide_eq_true (text_ne_nil range)
  have hranges : (ranges.map StatusRange.text).mapM parseStatusRange = .ok ranges := by
    rw [mapM_eq_ok,List.forall₂_map_left_iff,List.forall₂_same]
    exact fun range hrange => parseStatusRange_text (hvalid range hrange)
  unfold parseHealthCheckExpectedStatus
  dsimp only
  rw [htrim,hparts,hranges]
  simp [bailIf,hnonempty,hne,bind,Except.bind,pure,Except.pure]

lemma parseHealthCheckExpectedStatus_valid {value : Str} {ranges : List StatusRange}
    (h : parseHealthCheckExpectedStatus value = .ok ranges) : ranges ≠ [] ∧ ∀ range ∈ ranges, range.Valid := by
  unfold parseHealthCheckExpectedStatus at h
  simp only [bind,bind_eq_ok] at h
  obtain ⟨_,-,found,hfound,_,hsome,h⟩ := h
  cases h
  unfold bailIf at hsome
  split_ifs at hsome with hempty
  refine ⟨of_decide_eq_false (Bool.not_eq_true _ ▸ hempty),fun range hrange => ?_⟩
  obtain ⟨part,-,hpart⟩ := exists_of_forall₂ (mapM_eq_ok.mp hfound) hrange
  exact parseStatusRange_ok hpart

/-- A number has digits, and perhaps a plus sign in front. -/
lemma parseHttpStatusCode_chars {value : Str} {status : UInt16} (h : parseHttpStatusCode value = .ok status) :
    ∀ c ∈ value, c.isDigit ∨ c = '+' := by
  unfold parseHttpStatusCode at h
  cases hparse : parseU16 value with
  | none =>
    rw [hparse] at h
    cases h
  | some code =>
    obtain ⟨digits,hvalue,-,-,hdigits,-⟩ := parseU16_eq_some hparse
    intro c hc
    obtain rfl | rfl := hvalue
    · exact .inl (hdigits c hc)
    rcases List.mem_cons.mp hc with rfl | hc
    · exact .inr rfl
    · exact .inl (hdigits c hc)

lemma parseStatusRange_chars {value : Str} {range : StatusRange} (h : parseStatusRange value = .ok range) :
    ∀ c ∈ value, c.isDigit ∨ c = '+' ∨ c = '-' := by
  unfold parseStatusRange at h
  simp only [bind,bind_eq_ok] at h
  obtain ⟨start,hstart,stop,hstop,-⟩ := h
  intro c hc
  cases hsplit : splitOnce '-' value with
  | none =>
    rw [hsplit] at hstart
    exact (parseHttpStatusCode_chars hstart c hc).imp_right .inl
  | some parts =>
    rw [hsplit] at hstart hstop
    rw [(splitOnce_eq_some.mp hsplit).1] at hc
    rcases List.mem_append.mp hc with hc | hc
    · exact (parseHttpStatusCode_chars hstart c hc).imp_right .inl
    rcases List.mem_cons.mp hc with rfl | hc
    · exact .inr (.inr rfl)
    · exact (parseHttpStatusCode_chars hstop c hc).imp_right .inl

/-- No letter is in a list that is accepted. -/
lemma parseHealthCheckExpectedStatus_chars {value : Str} {ranges : List StatusRange}
    (h : parseHealthCheckExpectedStatus value = .ok ranges) :
    ∀ c ∈ value, isWhitespace c = true ∨ c = ',' ∨ c.isDigit ∨ c = '+' ∨ c = '-' := by
  unfold parseHealthCheckExpectedStatus at h
  simp only [bind,bind_eq_ok] at h
  obtain ⟨_,-,found,hfound,-⟩ := h
  have hparts := (mapM_eq_ok.mp hfound).flip
  intro c hc
  cases hspace : isWhitespace c with
  | true => exact .inl rfl
  | false =>
    have hjoin : [','].intercalate ((trim value).splitOn ',')=trim value := List.intercalate_splitOn ','
    have htrim := mem_trim hc hspace
    rw [← hjoin] at htrim
    obtain rfl | ⟨part,hpart,hc⟩ := of_mem_intercalate htrim
    · exact .inr (.inl rfl)
    · have hmem := mem_trim hc hspace
      have hkept : trim part ∈ (((trim value).splitOn ',').map trim).filter (fun part => decide (part ≠ [])) :=
        List.mem_filter.mpr ⟨List.mem_map_of_mem hpart,decide_eq_true (List.ne_nil_of_mem hmem)⟩
      obtain ⟨_,-,hparse⟩ := exists_of_forall₂ hparts hkept
      exact .inr (.inr (parseStatusRange_chars hparse c hmem))

/-- The lists that can be configured are those of valid ranges, but for the empty one, and each of them has a spelling that
is read as it. -/
theorem expected_status_iff (ranges : List StatusRange) :
    ((∃ value, parseHealthCheckExpectedStatus value = .ok ranges) ↔ ranges ≠ [] ∧ ∀ range ∈ ranges, range.Valid) ∧
    ((∃ value, parseHealthCheckExpectedStatus value = .ok ranges) ↔
      parseHealthCheckExpectedStatus (expectedStatusText ranges) = .ok ranges) := by
  refine ⟨⟨?_,fun h => ⟨_,parseHealthCheckExpectedStatus_text h.1 h.2⟩⟩,⟨?_,fun h => ⟨_,h⟩⟩⟩
  · rintro ⟨value,hvalue⟩
    exact parseHealthCheckExpectedStatus_valid hvalue
  · rintro ⟨value,hvalue⟩
    obtain ⟨hne,hvalid⟩ := parseHealthCheckExpectedStatus_valid hvalue
    exact parseHealthCheckExpectedStatus_text hne hvalid

end RotatorProxy.Config
