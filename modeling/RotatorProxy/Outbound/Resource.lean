import RotatorProxy.Library.Infix
import RotatorProxy.Text.Str

/-! I/O errors, and how the program tells from one that file descriptors have run out: by the error
number, by the numbers of its sources, or by the text of the two errors in its message. -/
namespace RotatorProxy.Outbound
open Text Library

inductive ErrorKind
  | unexpectedEof
  | invalidData
  | invalidInput
  | timedOut
  | notFound
  | unsupported
  | other
  /-- the kind that the standard library gives to an error number -/
  | decoded (code : ℕ)
  deriving DecidableEq, Repr

/-- `io::Error`: `message` is its `Display`, and `sources` are the error numbers along its chain of
sources, `none` for a source without one. -/
structure IoError where
  kind : ErrorKind
  rawOsError : Option ℕ
  message : Str
  sources : List (Option ℕ)
  deriving DecidableEq

/-- `io::Error::new` on a string -/
def IoError.new (kind : ErrorKind) (message : Str) : IoError := ⟨kind,none,message,[]⟩

/-- `io::Error::other` on a string -/
def IoError.otherError (message : Str) : IoError := .new .other message

def emfile : ℕ := 24
def enfile : ℕ := 23

def fileDescriptorExhaustionCodes : List ℕ := [emfile,enfile]

/-- `Display` of an error number with its description -/
def osErrorText (detail : Str) (code : ℕ) : Str :=
  detail++" (os error ".toList++decimal code++[')']

def emfileText : Str := osErrorText "Too many open files".toList emfile
def enfileText : Str := osErrorText "Too many open files in system".toList enfile

/-- The descriptions of error numbers by the C library: those of the two exhaustion errors, and
that no other error reads like them. -/
structure Libc where
  strerror : ℕ → Str
  emfile_text : strerror emfile="Too many open files".toList
  enfile_text : strerror enfile="Too many open files in system".toList
  distinct : ∀ code, code ∉ fileDescriptorExhaustionCodes →
    ¬emfileText <:+: osErrorText (strerror code) code ∧
      ¬enfileText <:+: osErrorText (strerror code) code

/-- `io::Error::from_raw_os_error` -/
def IoError.fromRawOsError (libc : Libc) (code : ℕ) : IoError :=
  ⟨.decoded code,some code,osErrorText (libc.strerror code) code,[]⟩

def fileDescriptorExhaustionFromMessage (libc : Libc) (message : Str) : Option IoError :=
  (fileDescriptorExhaustionCodes.map (IoError.fromRawOsError libc)).find?
    (fun err => decide (err.message <:+: message))

def isFileDescriptorExhaustionCode (code : Option ℕ) : Bool :=
  code.any (fun code => decide (code ∈ fileDescriptorExhaustionCodes))

def isFileDescriptorExhaustion (libc : Libc) (err : IoError) : Bool :=
  isFileDescriptorExhaustionCode err.rawOsError ||
    err.sources.any isFileDescriptorExhaustionCode ||
      (fileDescriptorExhaustionFromMessage libc err.message).isSome

/-! Texts that read like an exhaustion error -/

/-- A text holds the message of one of the two errors. -/
def ReadsExhausted (text : Str) : Prop := emfileText <:+: text ∨ enfileText <:+: text

instance (text : Str) : Decidable (ReadsExhausted text) := inferInstanceAs (Decidable (_ ∨ _))

variable (libc : Libc)

@[simp] theorem emfile_message : (IoError.fromRawOsError libc emfile).message=emfileText := by
  simp [IoError.fromRawOsError,libc.emfile_text,emfileText]

@[simp] theorem enfile_message : (IoError.fromRawOsError libc enfile).message=enfileText := by
  simp [IoError.fromRawOsError,libc.enfile_text,enfileText]

theorem exhaustion_from_message_isSome (text : Str) :
    (fileDescriptorExhaustionFromMessage libc text).isSome = true ↔ ReadsExhausted text := by
  simp [fileDescriptorExhaustionFromMessage,fileDescriptorExhaustionCodes,ReadsExhausted]

/-- What is found in a message is an error that counts as exhaustion itself. -/
theorem exhaustion_from_message {text : Str} {err : IoError}
    (h : fileDescriptorExhaustionFromMessage libc text = some err) :
    isFileDescriptorExhaustion libc err = true := by
  obtain ⟨code,hcode,rfl⟩ := List.mem_map.mp (List.mem_of_find?_eq_some h)
  simp [isFileDescriptorExhaustion,isFileDescriptorExhaustionCode,IoError.fromRawOsError,hcode]

/-- No error number of the error or of its sources is one of the two. -/
structure IoError.Unrelated (err : IoError) : Prop where
  code : isFileDescriptorExhaustionCode err.rawOsError=false
  sources : err.sources.any isFileDescriptorExhaustionCode=false

/-- Without an error number of exhaustion the text decides. -/
theorem IoError.Unrelated.counts_iff {err : IoError} (h : err.Unrelated) :
    isFileDescriptorExhaustion libc err = true ↔ ReadsExhausted err.message := by
  rw [isFileDescriptorExhaustion,h.code,h.sources,Bool.false_or,Bool.false_or,exhaustion_from_message_isSome]

theorem IoError.unrelated_new (kind : ErrorKind) (message : Str) : (IoError.new kind message).Unrelated :=
  ⟨rfl,rfl⟩

/-- An error made of a string counts as exhaustion by its text alone. -/
theorem isFileDescriptorExhaustion_new (kind : ErrorKind) (message : Str) :
    isFileDescriptorExhaustion libc (.new kind message) = true ↔ ReadsExhausted message :=
  (IoError.unrelated_new kind message).counts_iff libc

/-- An error number counts as exhaustion only if it is one of the two. -/
theorem isFileDescriptorExhaustion_fromRawOsError (code : ℕ) :
    isFileDescriptorExhaustion libc (.fromRawOsError libc code) = true ↔
      code ∈ fileDescriptorExhaustionCodes := by
  constructor
  · intro h
    by_contra hcode
    have htext := exhaustion_from_message_isSome libc (osErrorText (libc.strerror code) code)
    have hdistinct := libc.distinct code hcode
    simp [isFileDescriptorExhaustion,IoError.fromRawOsError,isFileDescriptorExhaustionCode,hcode] at h
    exact (htext.mp h).elim hdistinct.1 hdistinct.2
  · intro hcode
    simp [isFileDescriptorExhaustion,IoError.fromRawOsError,isFileDescriptorExhaustionCode,hcode]

/-- Text put in front of a message, such as a `format!` does. -/
structure LeadIn (pre : Str) : Prop where
  emfile : Inert emfileText pre
  enfile : Inert enfileText pre

theorem LeadIn.readsExhausted {pre : Str} (h : LeadIn pre) (s : Str) :
    ReadsExhausted (pre++s) ↔ ReadsExhausted s := by
  unfold ReadsExhausted
  rw [infix_inert_append h.emfile,infix_inert_append h.enfile]

theorem LeadIn.append {pre pre' : Str} (h : LeadIn pre) (h' : LeadIn pre') (s : Str) :
    ReadsExhausted (pre++(pre'++s)) ↔ ReadsExhausted s := by
  rw [h.readsExhausted,h'.readsExhausted]

/-- Both messages begin with the same letter, so a text without it can stand in front. -/
theorem leadIn_of_notMem {pre : Str} (h : 'T' ∉ pre) : LeadIn pre :=
  ⟨inert_of_notMem h,inert_of_notMem h⟩

theorem not_readsExhausted_of_notMem {text : Str} (h : 'T' ∉ text) : ¬ReadsExhausted text := by
  have hempty := (leadIn_of_notMem h).readsExhausted []
  rw [List.append_nil] at hempty
  rw [hempty]
  decide

/-! Errors of the embedded adapters -/

/-- The errors of the adapter crates that the program's own adapter returns. -/
inductive MeowError
  | io (err : IoError)
  | proxy (message : Str)

/-- `Display` of `MeowError::Proxy` puts a fixed text before the message. -/
structure MeowDisplay where
  proxyLead : Str
  lead_in : LeadIn proxyLead

def meowErrorToIo (libc : Libc) (meow : MeowDisplay) : MeowError → IoError
  | .io err => err
  | .proxy message =>
    let message := "meow 代理拨号失败：".toList++(meow.proxyLead++message)
    (fileDescriptorExhaustionFromMessage libc message).getD (.otherError message)

/-- An adapter's own message decides whether its error counts as exhaustion. -/
theorem meowErrorToIo_proxy (meow : MeowDisplay) (message : Str) :
    isFileDescriptorExhaustion libc (meowErrorToIo libc meow (.proxy message)) = true ↔
      ReadsExhausted message := by
  have hlead : LeadIn "meow 代理拨号失败：".toList := leadIn_of_notMem (by decide)
  rw [← hlead.append meow.lead_in message]
  rw [meowErrorToIo]
  rw [← exhaustion_from_message_isSome libc]
  cases hfound : fileDescriptorExhaustionFromMessage libc
      ("meow 代理拨号失败：".toList++(meow.proxyLead++message)) with
  | none =>
    rw [Option.getD_none,IoError.otherError,isFileDescriptorExhaustion_new,
      ← exhaustion_from_message_isSome libc,hfound]
  | some err => simpa using exhaustion_from_message libc hfound

/-- A C library that knows the two errors only. -/
def Libc.sample : Libc where
  strerror code :=
    if code=emfile then "Too many open files".toList
    else if code=enfile then "Too many open files in system".toList
    else "Unknown error ".toList++decimal code
  emfile_text := rfl
  enfile_text := rfl
  distinct code hcode := by
    have hne : code ≠ emfile ∧ code ≠ enfile := by
      simpa [fileDescriptorExhaustionCodes] using hcode
    have hdigits : 'T' ∉ decimal code := fun h => absurd (decimal_isDigit h) (by decide)
    rw [if_neg hne.1,if_neg hne.2,← not_or]
    apply not_readsExhausted_of_notMem
    simp [osErrorText,hdigits]

end RotatorProxy.Outbound
