import RotatorProxy.Text.Split

/-! Splitting a text at another text, at any of several characters, and into a bounded number of
pieces. -/
namespace RotatorProxy.Text

/-- `str::strip_prefix` of a text -/
def stripPrefixStr (pre s : Str) : Option Str := if pre.isPrefixOf s then some (s.drop pre.length) else none

/-- `str::split_once` at a text -/
def splitOnceStr (sep : Str) : Str → Option (Str × Str)
  | [] => if sep=[] then some ([],[]) else none
  | c::cs =>
    if sep.isPrefixOf (c::cs) then some ([],(c::cs).drop sep.length)
    else (splitOnceStr sep cs).map (fun p => (c::p.1,p.2))

/-- The first piece of `str::split` at any of these characters. -/
def firstPiece (seps : List Char) (s : Str) : Str := s.takeWhile (fun c => c ∉ seps)

/-- `str::split` at any of these characters -/
def splitAny (seps : List Char) : Str → List Str
  | [] => [[]]
  | c::cs =>
    if c ∈ seps then []::splitAny seps cs
    else match splitAny seps cs with
      | [] => [[c]]
      | piece::pieces => (c::piece)::pieces

/-- `str::splitn` at a character -/
def splitN (sep : Char) : ℕ → Str → List Str
  | 0,_ => []
  | 1,s => [s]
  | n+2,s =>
    match splitOnce sep s with
    | some (piece,rest) => piece::splitN sep (n+1) rest
    | none => [s]

/-- `str::trim_end` -/
def trimEnd (s : Str) : Str := s.rdropWhile isWhitespace

/-- `str::trim_start_matches` of a character -/
def trimStartMatches (c : Char) (s : Str) : Str := s.dropWhile (fun d => d=c)

/-- `str::trim_end_matches` of a character -/
def trimEndMatches (c : Char) (s : Str) : Str := s.rdropWhile (fun d => d=c)

/-- The line so far is taken in reverse. -/
def linesFrom : Str → Str → List Str
  | line,[] => if line=[] then [] else [line.reverse]
  | line,c::cs =>
    if c = '\n' then (if line.head? = some '\r' then line.tail.reverse else line.reverse)::linesFrom [] cs
    else linesFrom (c::line) cs

/-- `str::lines` -/
def lines (s : Str) : List Str := linesFrom [] s

example : lines "a\r\nb\n\nc".toList = ["a".toList,"b".toList,[],"c".toList] := by decide

example : splitN ':' 3 "a:b:c:d".toList = ["a".toList,"b".toList,"c:d".toList] := by decide

theorem splitOnceStr_self (sep rest : Str) (h : sep ≠ []) : splitOnceStr sep (sep++rest) = some ([],rest) := by
  cases sep with
  | nil => exact absurd rfl h
  | cons c cs =>
    rw [List.cons_append,splitOnceStr,if_pos]
    · simp
    · simp

/-- A text in which the separator cannot begin is passed over. -/
theorem splitOnceStr_append {sep : Str} {d : Char} (hd : sep.head? = some d) {a : Str} (ha : d ∉ a)
    (rest : Str) : splitOnceStr sep (a++sep++rest) = some (a,rest) := by
  have hne : sep ≠ [] := by
    rintro rfl
    cases hd
  induction a with
  | nil => exact splitOnceStr_self sep rest hne
  | cons c a ih =>
    have hc : d ≠ c := List.ne_of_not_mem_cons ha
    have hnot : ¬sep.isPrefixOf (c::(a++sep++rest)) = true := by
      cases sep with
      | nil => exact absurd rfl hne
      | cons e sep =>
        obtain rfl : e=d := by simpa using hd
        simp [hc]
    rw [List.cons_append,List.cons_append,splitOnceStr,if_neg hnot,ih (List.not_mem_of_not_mem_cons ha)]
    rfl

lemma firstPiece_append {seps : List Char} {a : Str} (ha : ∀ c ∈ a, c ∉ seps) {d : Char} (hd : d ∈ seps)
    (rest : Str) : firstPiece seps (a++d::rest) = a := by
  induction a with
  | nil => simp [firstPiece,hd]
  | cons c a ih =>
    have hc := ha c List.mem_cons_self
    simp only [firstPiece,List.cons_append,List.takeWhile_cons,hc,not_false_eq_true,decide_true,if_true]
    congr 1
    exact ih (fun e he => ha e (List.mem_cons_of_mem _ he))

lemma firstPiece_self {seps : List Char} {a : Str} (ha : ∀ c ∈ a, c ∉ seps) : firstPiece seps a = a := by
  rw [firstPiece,List.takeWhile_eq_self_iff]
  intro c hc
  simpa using ha c hc

lemma trimStartMatches_self {c : Char} {s : Str} (h : c ∉ s) : trimStartMatches c s=s := by
  cases s with
  | nil => rfl
  | cons d s =>
    rw [trimStartMatches,List.dropWhile_cons_of_neg]
    simpa using Ne.symm (List.ne_of_not_mem_cons h)

lemma trimEndMatches_self {c : Char} {s : Str} (h : c ∉ s) : trimEndMatches c s=s := by
  rw [trimEndMatches,List.rdropWhile_eq_self_iff]
  intro hne hlast
  rw [decide_eq_true_eq] at hlast
  apply h
  rw [← hlast]
  exact List.getLast_mem hne

/-- Brackets around a text without brackets come off. -/
lemma trimMatches_bracketed {s : Str} (hopen : '[' ∉ s) (hclose : ']' ∉ s) :
    trimEndMatches ']' (trimStartMatches '[' ('['::(s++[']'])))=s := by
  have hstart : trimStartMatches '[' ('['::(s++[']']))=s++[']'] := by
    have hself := trimStartMatches_self (c := '[') (s := s++[']']) (by simpa using hopen)
    rw [trimStartMatches,List.dropWhile_cons_of_pos (by simp)]
    exact hself
  rw [hstart,trimEndMatches,List.rdropWhile_concat_pos _ _ _ (by simp)]
  exact trimEndMatches_self hclose

end RotatorProxy.Text
