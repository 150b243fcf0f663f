import RotatorProxy.Library.Outcome
import RotatorProxy.Outbound.Resource
import RotatorProxy.Text.Lossy

/-! The messages that a hysteria server sends: its hello on the control stream of a connection, and
its response on the stream of a request. Both are a flag, some numbers, and a text with its length. -/
namespace RotatorProxy.Hysteria
open Text Outbound Library

/-- What the reads of a stream report that ends within a message: the read of a number, and the read of
the text. The words are those of tokio and quinn, and no error behind them holds an error number. -/
structure StreamFault where
  kind : ErrorKind
  number : Str
  readExact : Str

structure ServerHello where
  ok : Bool
  message : Str
  deriving DecidableEq

section Reading
variable (fault : StreamFault)

/-- `read_u8` and the like. -/
def readFixed (n : ℕ) (bytes : Bytes) : Except MeowError (Bytes × Bytes) :=
  if n ≤ bytes.length then .ok (bytes.take n,bytes.drop n) else .error (.io (.new fault.kind fault.number))

def bigEndian (bytes : Bytes) : ℕ := bytes.foldl (fun n b => n*256+b.toNat) 0

/-- Numbers that are read and not used. -/
def skipFields : List ℕ → Bytes → Except MeowError Bytes
  | [],bytes => .ok bytes
  | n::ns,bytes => (readFixed fault n bytes).bind fun read => skipFields ns read.2

/-- The text of a message; nothing is read where its length is zero. -/
def readMessage (lead : Str) (len : ℕ) (bytes : Bytes) : Except MeowError Bytes :=
  if len ≤ bytes.length then .ok (bytes.take len) else .error (.proxy (lead++fault.readExact))

def readServerMessage (fields : List ℕ) (lead : Str) (bytes : Bytes) : Except MeowError ServerHello :=
  (readFixed fault 1 bytes).bind fun flag =>
    (skipFields fault fields flag.2).bind fun bytes =>
      (readFixed fault 2 bytes).bind fun len =>
        (readMessage fault lead (bigEndian len.1) len.2).map fun message =>
          ⟨decide (bigEndian flag.1 ≠ 0),fromUtf8Lossy message⟩

def readServerHello : Bytes → Except MeowError ServerHello :=
  readServerMessage fault [8,8] "hysteria read server hello: ".toList

/-- A message that does not accept is an error that quotes it. -/
def accept (refusal : Str) (response : ServerHello) : Except MeowError Unit :=
  if response.ok then .ok () else .error (.proxy (refusal++response.message))

def readServerResponse (bytes : Bytes) : Except MeowError Unit :=
  (readServerMessage fault [4] "hysteria read server response: ".toList bytes).bind
    (accept "hysteria connection rejected: ".toList)

end Reading

/-! What the bytes of a message say -/

/-- The bytes hold a whole message: a flag, `n` bytes of numbers, a length and a text. -/
structure Holds (n : ℕ) (bytes : Bytes) (flag : UInt8) (text : Str) : Prop where
  layout : ∃ numbers len message rest, bytes=flag::(numbers++(len++(message++rest))) ∧
    numbers.length=n ∧ len.length=2 ∧ message.length=bigEndian len ∧ text=fromUtf8Lossy message

/-- The bytes end within the text of a message. -/
structure CutShort (n : ℕ) (bytes : Bytes) : Prop where
  layout : ∃ flag numbers len message, bytes=flag::(numbers++(len++message)) ∧
    numbers.length=n ∧ len.length=2 ∧ message.length < bigEndian len

variable {fault : StreamFault}

lemma readFixed_ok {n : ℕ} {bytes head rest : Bytes} :
    readFixed fault n bytes = .ok (head,rest) ↔ bytes=head++rest ∧ head.length=n := by
  unfold readFixed
  constructor
  · intro h
    split_ifs at h with hn
    cases h
    exact ⟨(List.take_append_drop n bytes).symm,List.length_take_of_le hn⟩
  · rintro ⟨rfl,rfl⟩
    rw [if_pos (by simp)]
    simp

lemma readFixed_error {n : ℕ} {bytes : Bytes} {err : MeowError} :
    readFixed fault n bytes = .error err ↔ bytes.length < n ∧ err=.io (.new fault.kind fault.number) := by
  unfold readFixed
  split_ifs with hn
  · simp [hn]
  · simp [not_le.mp hn,eq_comm]

lemma skipFields_ok (ns : List ℕ) {bytes rest : Bytes} :
    skipFields fault ns bytes = .ok rest ↔ ∃ numbers, bytes=numbers++rest ∧ numbers.length=ns.sum := by
  induction ns generalizing bytes with
  | nil => simp [skipFields]
  | cons n ns ih =>
    rw [skipFields,bind_eq_ok,List.sum_cons]
    constructor
    · rintro ⟨read,hread,h⟩
      obtain ⟨rfl,hn⟩ := readFixed_ok.mp hread
      obtain ⟨numbers,heq,hlen⟩ := ih.mp h
      refine ⟨read.1++numbers,by rw [heq,List.append_assoc],?_⟩
      rw [List.length_append,hn,hlen]
    · rintro ⟨numbers,rfl,hlen⟩
      refine ⟨(numbers.take n,numbers.drop n++rest),?_,?_⟩
      · rw [readFixed_ok,← List.append_assoc,List.take_append_drop]
        exact ⟨rfl,List.length_take_of_le (by omega)⟩
      · apply ih.mpr
        exact ⟨numbers.drop n,rfl,by rw [List.length_drop]; omega⟩

lemma skipFields_error (ns : List ℕ) {bytes : Bytes} {err : MeowError} :
    skipFields fault ns bytes = .error err ↔
      bytes.length < ns.sum ∧ err=.io (.new fault.kind fault.number) := by
  induction ns generalizing bytes with
  | nil => simp [skipFields]
  | cons n ns ih =>
    rw [skipFields,bind_eq_error,readFixed_error,List.sum_cons]
    constructor
    · rintro (⟨hshort,rfl⟩ | ⟨⟨head,rest⟩,hread,h⟩)
      · exact ⟨by omega,rfl⟩
      · obtain ⟨rfl,rfl⟩ := readFixed_ok.mp hread
        obtain ⟨hshort,rfl⟩ := ih.mp h
        dsimp only at hshort
        rw [List.length_append]
        exact ⟨by omega,rfl⟩
    · rintro ⟨hshort,rfl⟩
      by_cases hn : bytes.length < n
      · exact .inl ⟨hn,rfl⟩
      · have hread : readFixed fault n bytes = .ok (bytes.take n,bytes.drop n) := if_pos (not_lt.mp hn)
        refine .inr ⟨_,hread,ih.mpr ⟨?_,rfl⟩⟩
        rw [List.length_drop]
        omega

lemma readMessage_ok {lead : Str} {len : ℕ} {bytes message : Bytes} :
    readMessage fault lead len bytes = .ok message ↔
      ∃ rest, bytes=message++rest ∧ message.length=len := by
  unfold readMessage
  constructor
  · intro h
    split_ifs at h with hlen
    cases h
    exact ⟨bytes.drop len,(List.take_append_drop len bytes).symm,List.length_take_of_le hlen⟩
  · rintro ⟨rest,rfl,rfl⟩
    rw [if_pos (by simp)]
    simp

lemma bigEndian_singleton (flag : UInt8) : bigEndian [flag] ≠ 0 ↔ flag ≠ 0 := by
  rw [not_iff_not]
  simp [bigEndian,← UInt8.toNat_inj]

/-- A message is read exactly when the bytes hold one. -/
theorem readServerMessage_ok {fields : List ℕ} {lead : Str} {bytes : Bytes} {hello : ServerHello} :
    readServerMessage fault fields lead bytes = .ok hello ↔
      ∃ flag, Holds fields.sum bytes flag hello.message ∧ hello.ok=decide (flag ≠ 0) := by
  simp only [readServerMessage,bind_eq_ok,map_eq_ok]
  constructor
  · rintro ⟨⟨flag,afterFlag⟩,hflag,afterFields,hskip,⟨len,afterLen⟩,hlen,message,hmessage,rfl⟩
    obtain ⟨rfl,hone⟩ := readFixed_ok.mp hflag
    obtain ⟨b,rfl⟩ := List.length_eq_one_iff.mp hone
    obtain ⟨numbers,rfl,hnumbers⟩ := (skipFields_ok fields).mp hskip
    obtain ⟨rfl,htwo⟩ := readFixed_ok.mp hlen
    obtain ⟨rest,rfl,hmessage⟩ := readMessage_ok.mp hmessage
    refine ⟨b,⟨numbers,len,message,rest,rfl,hnumbers,htwo,hmessage,rfl⟩,?_⟩
    rw [decide_eq_decide]
    exact bigEndian_singleton b
  · rintro ⟨flag,⟨numbers,len,message,rest,rfl,hnumbers,htwo,hmessage,htext⟩,hok⟩
    refine ⟨([flag],_),readFixed_ok.mpr ⟨rfl,rfl⟩,_,(skipFields_ok fields).mpr ⟨numbers,rfl,hnumbers⟩,
      (len,_),readFixed_ok.mpr ⟨rfl,htwo⟩,message,readMessage_ok.mpr ⟨rest,rfl,hmessage⟩,?_⟩
    obtain ⟨ok,text⟩ := hello
    rw [ServerHello.mk.injEq]
    refine ⟨Eq.trans ?_ hok.symm,htext.symm⟩
    rw [decide_eq_decide]
    exact bigEndian_singleton flag

/-- A message is not read in whole where its bytes end: within the numbers, or within the text. -/
theorem readServerMessage_error {fields : List ℕ} {lead : Str} {bytes : Bytes} {err : MeowError} :
    readServerMessage fault fields lead bytes = .error err ↔
      (bytes.length < fields.sum+3 ∧ err=.io (.new fault.kind fault.number)) ∨
        (CutShort fields.sum bytes ∧ err=.proxy (lead++fault.readExact)) := by
  simp only [readServerMessage,bind_eq_error,map_eq_error,readFixed_error,skipFields_error]
  constructor
  · rintro (⟨h,rfl⟩ | ⟨⟨flag,_⟩,hflag,⟨h,rfl⟩ | ⟨_,hskip,⟨h,rfl⟩ | ⟨⟨len,_⟩,hlen,h⟩⟩⟩)
    · exact .inl ⟨by omega,rfl⟩
    · obtain ⟨rfl,hone⟩ := readFixed_ok.mp hflag
      refine .inl ⟨?_,rfl⟩
      rw [List.length_append]
      dsimp only at h
      omega
    · obtain ⟨rfl,hone⟩ := readFixed_ok.mp hflag
      obtain ⟨numbers,rfl,hnumbers⟩ := (skipFields_ok fields).mp hskip
      refine .inl ⟨?_,rfl⟩
      rw [List.length_append,List.length_append]
      omega
    · obtain ⟨rfl,hone⟩ := readFixed_ok.mp hflag
      obtain ⟨b,rfl⟩ := List.length_eq_one_iff.mp hone
      obtain ⟨numbers,rfl,hnumbers⟩ := (skipFields_ok fields).mp hskip
      obtain ⟨rfl,htwo⟩ := readFixed_ok.mp hlen
      unfold readMessage at h
      split_ifs at h with hshort
      cases h
      exact .inr ⟨⟨b,numbers,len,_,rfl,hnumbers,htwo,not_le.mp hshort⟩,rfl⟩
  · rintro (⟨h,rfl⟩ | ⟨⟨flag,numbers,len,message,rfl,hnumbers,htwo,hshort⟩,rfl⟩)
    · by_cases hflag : bytes.length < 1
      · exact .inl ⟨hflag,rfl⟩
      · have hread : readFixed fault 1 bytes = .ok (bytes.take 1,bytes.drop 1) := if_pos (not_lt.mp hflag)
        refine .inr ⟨_,hread,?_⟩
        by_cases hskip : (bytes.drop 1).length < fields.sum
        · exact .inl ⟨hskip,rfl⟩
        · have hfields : skipFields fault fields (bytes.drop 1) =
              .ok ((bytes.drop 1).drop fields.sum) := by
            apply (skipFields_ok fields).mpr
            exact ⟨_,(List.take_append_drop fields.sum _).symm,List.length_take_of_le (not_lt.mp hskip)⟩
          refine .inr ⟨_,hfields,.inl ⟨?_,rfl⟩⟩
          rw [List.length_drop,List.length_drop]
          omega
    · refine .inr ⟨([flag],_),readFixed_ok.mpr ⟨rfl,rfl⟩,.inr ⟨_,(skipFields_ok fields).mpr
        ⟨numbers,rfl,hnumbers⟩,.inr ⟨(len,_),readFixed_ok.mpr ⟨rfl,htwo⟩,?_⟩⟩⟩
      exact if_neg (not_le.mpr hshort)

/-! Which failures count as exhaustion -/

section Counting
variable (libc : Libc) (meow : MeowDisplay) {α β : Type}

/-- The step fails, and what its `MeowError` becomes counts as exhaustion. -/
def CountsExhausted (result : Except MeowError α) : Prop :=
  ∃ err, result = .error err ∧ isFileDescriptorExhaustion libc (meowErrorToIo libc meow err) = true

variable {libc meow}

lemma counts_ok (a : α) : ¬CountsExhausted libc meow (.ok a) := by
  rintro ⟨err,h,_⟩
  cases h

lemma counts_proxy {message : Str} :
    CountsExhausted libc meow (.error (.proxy message) : Except MeowError α) ↔ ReadsExhausted message := by
  simp [CountsExhausted,meowErrorToIo_proxy]

lemma counts_io {err : IoError} (h : err.Unrelated) :
    CountsExhausted libc meow (.error (.io err) : Except MeowError α) ↔ ReadsExhausted err.message := by
  simp [CountsExhausted,meowErrorToIo,h.counts_iff]

/-- In a chain the first step that fails counts. -/
theorem counts_bind {x : Except MeowError α} {f : α → Except MeowError β} :
    CountsExhausted libc meow (x.bind f) ↔
      CountsExhausted libc meow x ∨ ∃ a, x = .ok a ∧ CountsExhausted libc meow (f a) := by
  cases x with
  | error err => simp [CountsExhausted,Except.bind]
  | ok a => simp [CountsExhausted,Except.bind]

end Counting

variable {libc : Libc} {meow : MeowDisplay}

/-- The bytes hold a message of the server that accepts. -/
def Admits (n : ℕ) (bytes : Bytes) : Prop := ∃ flag text, Holds n bytes flag text ∧ flag ≠ 0

/-- The bytes hold a message of the server that refuses with a text. -/
def Refuses (n : ℕ) (bytes : Bytes) (text : Str) : Prop := Holds n bytes 0 text

/-- What is reported where a message does not accept. -/
inductive MessageReports (fault : StreamFault) (n : ℕ) (bytes : Bytes) : Str → Prop
  | number : bytes.length < n+3 → MessageReports fault n bytes fault.number
  | text : CutShort n bytes → MessageReports fault n bytes fault.readExact
  | refusal {text : Str} : Refuses n bytes text → MessageReports fault n bytes text

theorem verdict_ok {fields : List ℕ} {lead refusal : Str} {bytes : Bytes} :
    (readServerMessage fault fields lead bytes).bind (accept refusal) = .ok () ↔
      Admits fields.sum bytes := by
  rw [bind_eq_ok]
  constructor
  · rintro ⟨hello,hread,haccept⟩
    obtain ⟨flag,hholds,hok⟩ := readServerMessage_ok.mp hread
    unfold accept at haccept
    split_ifs at haccept with h
    exact ⟨flag,hello.message,hholds,of_decide_eq_true (hok.symm.trans h)⟩
  · rintro ⟨flag,text,hholds,hflag⟩
    refine ⟨⟨true,text⟩,readServerMessage_ok.mpr ⟨flag,hholds,?_⟩,rfl⟩
    exact (decide_eq_true hflag).symm

lemma counts_readServerMessage {fields : List ℕ} {lead : Str} (hlead : LeadIn lead) {bytes : Bytes} :
    CountsExhausted libc meow (readServerMessage fault fields lead bytes) ↔
      (bytes.length < fields.sum+3 ∧ ReadsExhausted fault.number) ∨
        (CutShort fields.sum bytes ∧ ReadsExhausted fault.readExact) := by
  have hnumber : isFileDescriptorExhaustion libc
      (meowErrorToIo libc meow (.io (.new fault.kind fault.number))) = true ↔ ReadsExhausted fault.number :=
    isFileDescriptorExhaustion_new libc _ _
  have htext : isFileDescriptorExhaustion libc
      (meowErrorToIo libc meow (.proxy (lead++fault.readExact))) = true ↔ ReadsExhausted fault.readExact := by
    rw [meowErrorToIo_proxy,hlead.readsExhausted]
  constructor
  · rintro ⟨err,herr,hcounts⟩
    obtain ⟨hshort,rfl⟩ | ⟨hcut,rfl⟩ := readServerMessage_error.mp herr
    · exact .inl ⟨hshort,hnumber.mp hcounts⟩
    · exact .inr ⟨hcut,htext.mp hcounts⟩
  · rintro (⟨hshort,hreads⟩ | ⟨hcut,hreads⟩)
    · exact ⟨_,readServerMessage_error.mpr (.inl ⟨hshort,rfl⟩),hnumber.mpr hreads⟩
    · exact ⟨_,readServerMessage_error.mpr (.inr ⟨hcut,rfl⟩),htext.mpr hreads⟩

/-- A message that does not accept counts as exhaustion by the text that is reported. -/
theorem counts_verdict {fields : List ℕ} {lead refusal : Str} (hlead : LeadIn lead)
    (hrefusal : LeadIn refusal) {bytes : Bytes} :
    CountsExhausted libc meow ((readServerMessage fault fields lead bytes).bind (accept refusal)) ↔
      ∃ text, MessageReports fault fields.sum bytes text ∧ ReadsExhausted text := by
  rw [counts_bind,counts_readServerMessage hlead]
  constructor
  · rintro ((⟨hshort,hreads⟩ | ⟨hcut,hreads⟩) | ⟨hello,hread,hcounts⟩)
    · exact ⟨_,.number hshort,hreads⟩
    · exact ⟨_,.text hcut,hreads⟩
    · obtain ⟨flag,hholds,hflag⟩ := readServerMessage_ok.mp hread
      unfold accept at hcounts
      split_ifs at hcounts with hok
      · exact absurd hcounts (counts_ok ())
      · rw [counts_proxy,hrefusal.readsExhausted] at hcounts
        have hzero : flag=0 := by
          by_contra hne
          exact hok (hflag.trans (decide_eq_true hne))
        subst hzero
        exact ⟨_,.refusal hholds,hcounts⟩
  · rintro ⟨text,hreports,hreads⟩
    cases hreports with
    | number hshort => exact .inl (.inl ⟨hshort,hreads⟩)
    | text hcut => exact .inl (.inr ⟨hcut,hreads⟩)
    | refusal hrefuses =>
      refine .inr ⟨⟨false,text⟩,readServerMessage_ok.mpr ⟨0,hrefuses,rfl⟩,?_⟩
      rw [accept,if_neg Bool.false_ne_true,counts_proxy,hrefusal.readsExhausted]
      exact hreads

theorem counts_readServerResponse {bytes : Bytes} :
    CountsExhausted libc meow (readServerResponse fault bytes) ↔
      ∃ text, MessageReports fault 4 bytes text ∧ ReadsExhausted text :=
  counts_verdict (leadIn_of_notMem (by decide)) (leadIn_of_notMem (by decide))

end RotatorProxy.Hysteria
