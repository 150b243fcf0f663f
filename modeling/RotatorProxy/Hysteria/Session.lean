import RotatorProxy.Hysteria.Messages
import RotatorProxy.Hysteria.Request
import RotatorProxy.Mihomo.Build

/-! A dial through a hysteria server: the connection over the addresses of the server, with the hello on
its control stream, and the request on a stream of its own. Every step may fail with words of quinn, and
those of a lost connection quote what the server gave as its reason for closing it. -/
namespace RotatorProxy.Hysteria
open Text Outbound Library
open Mihomo (HysteriaOptions)

/-- A step whose error is quoted. -/
def worded (lead : Str) (step : Except Str Unit) : Except MeowError Unit :=
  step.mapError fun err => .proxy (lead++err)

/-- A step under `CONNECT_TIMEOUT`, which is `none` where the time runs out. -/
def timed (expired lead : Str) : Option (Except Str Unit) → Except MeowError Unit
  | none => .error (.proxy expired)
  | some step => worded lead step

/-- `u64::to_be_bytes` -/
def u64ToBeBytes (n : ℕ) : Bytes := (List.range 8).map fun i => UInt8.ofNat (n/256^(7-i))

def encodeClientHello (sendBps recvBps : ℕ) (auth : Bytes) : Except MeowError Bytes :=
  if 65535 < auth.length then .error (.proxy "hysteria auth is too long".toList)
  else .ok (u64ToBeBytes sendBps++u64ToBeBytes recvBps++toBeBytes (UInt16.ofNat auth.length)++auth)

/-- How the steps of `connect_addr` end at one address: those of its own machine with an `io::Error`,
those of rustls and quinn with their words. `hello` is what the server sends on the control stream. -/
structure AddrAttempt where
  endpoint : Except IoError Unit
  tlsConfig : Except Str Unit
  start : Except Str Unit
  connect : Option (Except Str Unit)
  controlStream : Option (Except Str Unit)
  writeVersion : Except Str Unit
  writeHello : Bytes → Except Str Unit
  hello : Bytes
  fault : StreamFault

def authenticate (options : HysteriaOptions) (addr : AddrAttempt) : Except MeowError Unit :=
  (worded "hysteria write protocol version: ".toList addr.writeVersion).bind fun _ =>
    (encodeClientHello options.upBps options.downBps options.auth).bind fun hello =>
      (worded "hysteria write client hello: ".toList (addr.writeHello hello)).bind fun _ =>
        (readServerHello addr.fault addr.hello).bind (accept "hysteria auth rejected: ".toList)

def connectAddr (options : HysteriaOptions) (addr : AddrAttempt) : Except MeowError Unit :=
  (addr.endpoint.mapError .io).bind fun _ =>
    -- the idle timeout of the transport is a constant that fits, so only the TLS settings can fail
    (worded "hysteria tls config: ".toList addr.tlsConfig).bind fun _ =>
      (worded "hysteria connect start: ".toList addr.start).bind fun _ =>
        (timed "hysteria connect timeout after 10s".toList "hysteria connect: ".toList addr.connect).bind fun _ =>
          (timed "hysteria control stream timeout".toList "hysteria control stream: ".toList
            addr.controlStream).bind fun _ => authenticate options addr

/-- The loop of `connect_hysteria` over the addresses. -/
def connectAddrs (options : HysteriaOptions) : List AddrAttempt → Option MeowError → Except MeowError Unit
  | [],lastError => .error (lastError.getD (.proxy "hysteria resolve returned no addresses".toList))
  | addr::addrs,_ =>
    match connectAddr options addr with
    | .ok () => .ok ()
    | .error err => connectAddrs options addrs (some err)

def connectHysteria (options : HysteriaOptions) (resolved : Except IoError (List AddrAttempt)) :
    Except MeowError Unit :=
  (resolved.mapError .io).bind fun addrs => connectAddrs options addrs none

/-- What `dial_tcp` meets: whether the connection of an earlier dial is active, what the name of the
server resolves to, and how the steps on the stream of the request end. -/
structure Dial where
  options : HysteriaOptions
  metadata : Metadata
  cached : Bool
  resolved : Except IoError (List AddrAttempt)
  openStream : Except Str Unit
  write : Bytes → Except Str Unit
  response : Bytes
  fault : StreamFault

def connection (dial : Dial) : Except MeowError Unit :=
  if dial.cached then .ok () else connectHysteria dial.options dial.resolved

def dialTcp (dial : Dial) : Except MeowError Unit :=
  (targetFromMetadata dial.metadata).bind fun target =>
    (connection dial).bind fun _ =>
      (worded "hysteria open stream: ".toList dial.openStream).bind fun _ =>
        (encodeClientRequest target).bind fun request =>
          (worded "hysteria write request: ".toList (dial.write request)).bind fun _ =>
            if dial.options.fastOpen then .ok () else readServerResponse dial.fault dial.response

/-! Steps -/

variable {libc : Libc} {meow : MeowDisplay}

lemma worded_ok {lead : Str} {step : Except Str Unit} {u : Unit} :
    worded lead step = .ok u ↔ step = .ok u := by
  cases step with
  | error err => simp [worded,Except.mapError]
  | ok v => simp [worded,Except.mapError]

lemma timed_ok {expired lead : Str} {step : Option (Except Str Unit)} {u : Unit} :
    timed expired lead step = .ok u ↔ step=some (.ok u) := by
  cases step with
  | none => simp [timed]
  | some step => simp [timed,worded_ok]

lemma counts_worded {lead : Str} (hlead : LeadIn lead) {step : Except Str Unit} :
    CountsExhausted libc meow (worded lead step) ↔ ∃ text, step = .error text ∧ ReadsExhausted text := by
  cases step with
  | error err => simp [worded,Except.mapError,counts_proxy,hlead.readsExhausted]
  | ok u => simp [worded,Except.mapError,counts_ok]

lemma counts_timed {expired lead : Str} (hexpired : ¬ReadsExhausted expired) (hlead : LeadIn lead)
    {step : Option (Except Str Unit)} :
    CountsExhausted libc meow (timed expired lead step) ↔
      ∃ text, step=some (.error text) ∧ ReadsExhausted text := by
  cases step with
  | none => simp [timed,counts_proxy,hexpired]
  | some step => simp [timed,counts_worded hlead]

lemma mapError_io_ok {α : Type} {step : Except IoError α} {a : α} :
    step.mapError MeowError.io = .ok a ↔ step = .ok a := by
  cases step with
  | error err => simp [Except.mapError]
  | ok b => simp [Except.mapError]

/-- An `io::Error` without an error number of exhaustion counts by its text. -/
lemma counts_mapError_io {α : Type} {step : Except IoError α} (h : ∀ err, step = .error err → err.Unrelated) :
    CountsExhausted libc meow (step.mapError .io) ↔ ∃ err, step = .error err ∧ ReadsExhausted err.message := by
  cases step with
  | error err => simp [Except.mapError,counts_io (h err rfl)]
  | ok a => simp [Except.mapError,counts_ok]

/-! The connection to one address -/

/-- The connection to the address and its control stream are open. -/
structure Connected (addr : AddrAttempt) : Prop where
  endpoint : addr.endpoint = .ok ()
  tlsConfig : addr.tlsConfig = .ok ()
  start : addr.start = .ok ()
  connect : addr.connect=some (.ok ())
  controlStream : addr.controlStream=some (.ok ())

/-- The client has sent its hello. -/
structure Greeted (options : HysteriaOptions) (addr : AddrAttempt) : Prop where
  version : addr.writeVersion = .ok ()
  hello : ∃ hello, encodeClientHello options.upBps options.downBps options.auth = .ok hello ∧
    addr.writeHello hello = .ok ()

/-- The server at the address admits the client. -/
structure Admitted (options : HysteriaOptions) (addr : AddrAttempt) : Prop where
  connected : Connected addr
  greeted : Greeted options addr
  admits : Admits 16 addr.hello

/-- What is reported where the hellos fail. -/
inductive GreetingReports (options : HysteriaOptions) (addr : AddrAttempt) : Str → Prop
  | writeVersion {text : Str} : addr.writeVersion = .error text → GreetingReports options addr text
  | writeHello {hello : Bytes} {text : Str} : addr.writeVersion = .ok () →
      encodeClientHello options.upBps options.downBps options.auth = .ok hello →
      addr.writeHello hello = .error text → GreetingReports options addr text
  | answer {text : Str} : Greeted options addr → MessageReports addr.fault 16 addr.hello text →
      GreetingReports options addr text

/-- What the first step that fails at an address reports. -/
inductive AddrReports (options : HysteriaOptions) (addr : AddrAttempt) : Str → Prop
  | endpoint {err : IoError} : addr.endpoint = .error err → AddrReports options addr err.message
  | tlsConfig {text : Str} : addr.endpoint = .ok () → addr.tlsConfig = .error text →
      AddrReports options addr text
  | start {text : Str} : addr.endpoint = .ok () → addr.tlsConfig = .ok () → addr.start = .error text →
      AddrReports options addr text
  | connect {text : Str} : addr.endpoint = .ok () → addr.tlsConfig = .ok () → addr.start = .ok () →
      addr.connect=some (.error text) → AddrReports options addr text
  | controlStream {text : Str} : addr.endpoint = .ok () → addr.tlsConfig = .ok () → addr.start = .ok () →
      addr.connect=some (.ok ()) → addr.controlStream=some (.error text) → AddrReports options addr text
  | greeting {text : Str} : Connected addr → GreetingReports options addr text → AddrReports options addr text

section Address
variable {options : HysteriaOptions} {addr : AddrAttempt}

lemma authenticate_ok : authenticate options addr = .ok () ↔ Greeted options addr ∧ Admits 16 addr.hello := by
  have hverdict : (readServerHello addr.fault addr.hello).bind (accept "hysteria auth rejected: ".toList) =
      .ok () ↔ Admits 16 addr.hello := verdict_ok
  simp only [authenticate,bind_eq_ok,worded_ok]
  constructor
  · rintro ⟨_,hversion,hello,hencode,_,hwrite,hread⟩
    exact ⟨⟨hversion,hello,hencode,hwrite⟩,hverdict.mp (bind_eq_ok.mpr hread)⟩
  · rintro ⟨⟨hversion,hello,hencode,hwrite⟩,hadmits⟩
    exact ⟨(),hversion,hello,hencode,(),hwrite,bind_eq_ok.mp (hverdict.mpr hadmits)⟩

lemma counts_encodeClientHello {sendBps recvBps : ℕ} {auth : Bytes} :
    ¬CountsExhausted libc meow (encodeClientHello sendBps recvBps auth) := by
  unfold encodeClientHello
  split_ifs
  · rw [counts_proxy]
    decide
  · exact counts_ok _

lemma counts_authenticate :
    CountsExhausted libc meow (authenticate options addr) ↔
      ∃ text, GreetingReports options addr text ∧ ReadsExhausted text := by
  have hanswer : CountsExhausted libc meow ((readServerHello addr.fault addr.hello).bind
      (accept "hysteria auth rejected: ".toList)) ↔
        ∃ text, MessageReports addr.fault 16 addr.hello text ∧ ReadsExhausted text :=
    counts_verdict (leadIn_of_notMem (by decide)) (leadIn_of_notMem (by decide))
  have hversion : LeadIn "hysteria write protocol version: ".toList := leadIn_of_notMem (by decide)
  have hhello : LeadIn "hysteria write client hello: ".toList := leadIn_of_notMem (by decide)
  simp only [authenticate,counts_bind (α := Unit),counts_bind (α := Bytes),worded_ok,counts_worded hversion,
    counts_worded hhello,hanswer,counts_encodeClientHello,false_or]
  constructor
  · rintro (⟨text,herr,hreads⟩ | ⟨_,hok,hello,hencode,⟨text,herr,hreads⟩ | ⟨_,hwrite,text,hreports,hreads⟩⟩)
    · exact ⟨text,.writeVersion herr,hreads⟩
    · exact ⟨text,.writeHello hok hencode herr,hreads⟩
    · exact ⟨text,.answer ⟨hok,hello,hencode,hwrite⟩ hreports,hreads⟩
  · rintro ⟨text,hreports,hreads⟩
    cases hreports with
    | writeVersion herr => exact .inl ⟨text,herr,hreads⟩
    | writeHello hok hencode herr => exact .inr ⟨(),hok,_,hencode,.inl ⟨text,herr,hreads⟩⟩
    | answer hgreeted hmessage =>
      obtain ⟨hok,hello,hencode,hwrite⟩ := hgreeted
      exact .inr ⟨(),hok,hello,hencode,.inr ⟨(),hwrite,text,hmessage,hreads⟩⟩

lemma connectAddr_ok : connectAddr options addr = .ok () ↔ Admitted options addr := by
  simp only [connectAddr,bind_eq_ok,mapError_io_ok,worded_ok,timed_ok,authenticate_ok]
  constructor
  · rintro ⟨_,hendpoint,_,htls,_,hstart,_,hconnect,_,hcontrol,hgreeted,hadmits⟩
    exact ⟨⟨hendpoint,htls,hstart,hconnect,hcontrol⟩,hgreeted,hadmits⟩
  · rintro ⟨⟨hendpoint,htls,hstart,hconnect,hcontrol⟩,hgreeted,hadmits⟩
    exact ⟨(),hendpoint,(),htls,(),hstart,(),hconnect,(),hcontrol,hgreeted,hadmits⟩

/-- No call of its own machine at the address fails with an error number of exhaustion. -/
def AddrAttempt.LocalOk (addr : AddrAttempt) : Prop := ∀ err, addr.endpoint = .error err → err.Unrelated

theorem counts_connectAddr (hlocal : addr.LocalOk) :
    CountsExhausted libc meow (connectAddr options addr) ↔
      ∃ text, AddrReports options addr text ∧ ReadsExhausted text := by
  have htls : LeadIn "hysteria tls config: ".toList := leadIn_of_notMem (by decide)
  have hstart : LeadIn "hysteria connect start: ".toList := leadIn_of_notMem (by decide)
  have hconnect : LeadIn "hysteria connect: ".toList := leadIn_of_notMem (by decide)
  have hcontrol : LeadIn "hysteria control stream: ".toList := leadIn_of_notMem (by decide)
  have hslow : ¬ReadsExhausted "hysteria connect timeout after 10s".toList := by decide
  have hstuck : ¬ReadsExhausted "hysteria control stream timeout".toList := by decide
  simp only [connectAddr,counts_bind (α := Unit),mapError_io_ok,worded_ok,timed_ok,counts_mapError_io hlocal,
    counts_worded htls,counts_worded hstart,counts_timed hslow hconnect,counts_timed hstuck hcontrol,
    counts_authenticate]
  constructor
  · rintro (⟨err,herr,hreads⟩ | ⟨_,h₁,⟨text,herr,hreads⟩ | ⟨_,h₂,⟨text,herr,hreads⟩ | ⟨_,h₃,
      ⟨text,herr,hreads⟩ | ⟨_,h₄,⟨text,herr,hreads⟩ | ⟨_,h₅,text,hreports,hreads⟩⟩⟩⟩⟩)
    · exact ⟨err.message,.endpoint herr,hreads⟩
    · exact ⟨text,.tlsConfig h₁ herr,hreads⟩
    · exact ⟨text,.start h₁ h₂ herr,hreads⟩
    · exact ⟨text,.connect h₁ h₂ h₃ herr,hreads⟩
    · exact ⟨text,.controlStream h₁ h₂ h₃ h₄ herr,hreads⟩
    · exact ⟨text,.greeting ⟨h₁,h₂,h₃,h₄,h₅⟩ hreports,hreads⟩
  · rintro ⟨text,hreports,hreads⟩
    cases hreports with
    | endpoint herr => exact .inl ⟨_,herr,hreads⟩
    | tlsConfig h₁ herr => exact .inr ⟨(),h₁,.inl ⟨text,herr,hreads⟩⟩
    | start h₁ h₂ herr => exact .inr ⟨(),h₁,.inr ⟨(),h₂,.inl ⟨text,herr,hreads⟩⟩⟩
    | connect h₁ h₂ h₃ herr => exact .inr ⟨(),h₁,.inr ⟨(),h₂,.inr ⟨(),h₃,.inl ⟨text,herr,hreads⟩⟩⟩⟩
    | controlStream h₁ h₂ h₃ h₄ herr =>
      exact .inr ⟨(),h₁,.inr ⟨(),h₂,.inr ⟨(),h₃,.inr ⟨(),h₄,.inl ⟨text,herr,hreads⟩⟩⟩⟩⟩
    | greeting hconn hgreeting =>
      obtain ⟨h₁,h₂,h₃,h₄,h₅⟩ := hconn
      exact .inr ⟨(),h₁,.inr ⟨(),h₂,.inr ⟨(),h₃,.inr ⟨(),h₄,.inr ⟨(),h₅,text,hgreeting,hreads⟩⟩⟩⟩⟩

end Address

/-! The addresses of the server -/

/-- No address admits the client, and the one tried last reports. -/
structure AddrsReport (options : HysteriaOptions) (addrs : List AddrAttempt) (text : Str) : Prop where
  refused : ∀ addr ∈ addrs, ¬Admitted options addr
  last : ∃ addr, addrs.getLast? = some addr ∧ AddrReports options addr text

theorem connectAddrs_ok {options : HysteriaOptions} (addrs : List AddrAttempt) {lastError : Option MeowError} :
    connectAddrs options addrs lastError = .ok () ↔ ∃ addr ∈ addrs, Admitted options addr := by
  induction addrs generalizing lastError with
  | nil => simp [connectAddrs]
  | cons addr addrs ih =>
    rw [connectAddrs,List.exists_mem_cons_iff,← connectAddr_ok]
    cases connectAddr options addr with
    | ok u => simp
    | error err => simp [ih]

/-- Where no address admits the client, the error of the last one is returned. -/
theorem connectAddrs_last {options : HysteriaOptions} {addrs : List AddrAttempt} {addr : AddrAttempt}
    {lastError : Option MeowError} (hrefused : ∀ a ∈ addrs, ¬Admitted options a)
    (hlast : addrs.getLast? = some addr) :
    connectAddrs options addrs lastError=connectAddr options addr := by
  induction addrs generalizing lastError with
  | nil => cases hlast
  | cons first addrs ih =>
    obtain ⟨hfirst,hrest⟩ := List.forall_mem_cons.mp hrefused
    rw [← connectAddr_ok] at hfirst
    rw [connectAddrs]
    cases hconn : connectAddr options first with
    | ok u => exact absurd hconn hfirst
    | error err =>
      cases addrs with
      | nil =>
        cases hlast
        exact hconn.symm
      | cons second addrs =>
        rw [List.getLast?_cons_cons] at hlast
        exact ih hrest hlast

theorem counts_connectAddrs {options : HysteriaOptions} {addrs : List AddrAttempt}
    (hlocal : ∀ a ∈ addrs, a.LocalOk) :
    CountsExhausted libc meow (connectAddrs options addrs none) ↔
      ∃ text, AddrsReport options addrs text ∧ ReadsExhausted text := by
  by_cases hadmitted : ∃ addr ∈ addrs, Admitted options addr
  · rw [(connectAddrs_ok addrs).mpr hadmitted]
    refine ⟨fun h => absurd h (counts_ok ()),?_⟩
    rintro ⟨text,⟨hrefused,_⟩,_⟩
    obtain ⟨addr,hmem,hadmits⟩ := hadmitted
    exact absurd hadmits (hrefused addr hmem)
  · have hrefused : ∀ addr ∈ addrs, ¬Admitted options addr := by simpa using hadmitted
    cases hlast : addrs.getLast? with
    | none =>
      rw [List.getLast?_eq_none_iff.mp hlast,connectAddrs,Option.getD_none,counts_proxy]
      refine ⟨fun h => absurd h (by decide),?_⟩
      rintro ⟨text,⟨_,addr,hnone,_⟩,_⟩
      cases hnone
    | some addr =>
      have hmem := List.mem_of_getLast? hlast
      rw [connectAddrs_last hrefused hlast,counts_connectAddr (hlocal addr hmem)]
      apply exists_congr
      intro text
      apply and_congr_left'
      constructor
      · exact fun hreports => ⟨hrefused,addr,hlast,hreports⟩
      · rintro ⟨_,addr',hlast',hreports⟩
        rw [hlast] at hlast'
        cases hlast'
        exact hreports

/-! The dial -/

/-- An active connection to the server is at hand. -/
def HasConnection (dial : Dial) : Prop :=
  dial.cached = true ∨ ∃ addrs, dial.resolved = .ok addrs ∧ ∃ addr ∈ addrs, Admitted dial.options addr

/-- What the first step of a dial that fails reports. -/
inductive DialReports (dial : Dial) (target : Str) : Str → Prop
  | resolve {err : IoError} : dial.cached = false → dial.resolved = .error err →
      DialReports dial target err.message
  | connect {addrs : List AddrAttempt} {text : Str} : dial.cached = false → dial.resolved = .ok addrs →
      AddrsReport dial.options addrs text → DialReports dial target text
  | openStream {text : Str} : HasConnection dial → dial.openStream = .error text →
      DialReports dial target text
  | write {request : Bytes} {text : Str} : HasConnection dial → dial.openStream = .ok () →
      encodeClientRequest target = .ok request → dial.write request = .error text →
      DialReports dial target text
  | response {request : Bytes} {text : Str} : HasConnection dial → dial.openStream = .ok () →
      encodeClientRequest target = .ok request → dial.write request = .ok () →
      dial.options.fastOpen = false → MessageReports dial.fault 4 dial.response text →
      DialReports dial target text

/-- No call of its own machine on the way fails with an error number of exhaustion. -/
structure Dial.LocalOk (dial : Dial) : Prop where
  resolve : ∀ err, dial.resolved = .error err → err.Unrelated
  addrs : ∀ addrs, dial.resolved = .ok addrs → ∀ addr ∈ addrs, addr.LocalOk

variable {dial : Dial}

lemma connection_ok {u : Unit} : connection dial = .ok u ↔ HasConnection dial := by
  unfold connection HasConnection
  split_ifs with hcached
  · simp [hcached]
  · rw [or_iff_right hcached,connectHysteria,bind_eq_ok]
    simp only [mapError_io_ok]
    exact exists_congr fun addrs => and_congr_right' (connectAddrs_ok addrs)

lemma counts_connection (hlocal : dial.LocalOk) :
    CountsExhausted libc meow (connection dial) ↔ dial.cached = false ∧
      ((∃ err, dial.resolved = .error err ∧ ReadsExhausted err.message) ∨
        ∃ addrs, dial.resolved = .ok addrs ∧ ∃ text, AddrsReport dial.options addrs text ∧ ReadsExhausted text) := by
  unfold connection
  split_ifs with hcached
  · simp [hcached,counts_ok]
  · rw [connectHysteria,counts_bind,counts_mapError_io hlocal.resolve]
    simp only [mapError_io_ok,hcached,true_and]
    apply or_congr_right
    apply exists_congr
    intro addrs
    apply and_congr_right
    intro hresolved
    exact counts_connectAddrs (hlocal.addrs addrs hresolved)

lemma counts_targetFromMetadata (metadata : Metadata) :
    ¬CountsExhausted libc meow (targetFromMetadata metadata) := by
  have hport : ¬ReadsExhausted "hysteria: metadata has no destination port".toList := by decide
  have hnone : ¬ReadsExhausted "hysteria: metadata has no destination".toList := by decide
  unfold targetFromMetadata
  split_ifs
  · exact fun h => hport (counts_proxy.mp h)
  · cases parseIpAddr metadata.host with
    | none => exact counts_ok _
    | some ip => exact counts_ok _
  · cases metadata.dstIp with
    | none => exact fun h => hnone (counts_proxy.mp h)
    | some ip => exact counts_ok _

/-- A target ends in its port. -/
lemma targetFromMetadata_form {metadata : Metadata} {target : Str}
    (h : targetFromMetadata metadata = .ok target) :
    ∃ host, target=host++ ':'::decimal metadata.dstPort.toNat := by
  have hdisplay : ∀ ip, ∃ host, socketAddrDisplay ip metadata.dstPort=host++ ':'::decimal metadata.dstPort.toNat := by
    intro ip
    cases ip with
    | v4 ip => exact ⟨ip.display,rfl⟩
    | v6 ip => exact ⟨'['::(ip.display++[']']),rfl⟩
  unfold targetFromMetadata at h
  split_ifs at h
  · cases hparse : parseIpAddr metadata.host with
    | none =>
      rw [hparse] at h
      cases h
      exact ⟨metadata.host,rfl⟩
    | some ip =>
      rw [hparse] at h
      cases h
      exact hdisplay ip
  · cases hip : metadata.dstIp with
    | none =>
      rw [hip] at h
      cases h
    | some ip =>
      rw [hip] at h
      cases h
      exact hdisplay ip

lemma counts_encodeClientRequest {metadata : Metadata} {target : Str}
    (h : targetFromMetadata metadata = .ok target) :
    ¬CountsExhausted libc meow (encodeClientRequest target) := by
  obtain ⟨host,rfl⟩ := targetFromMetadata_form h
  rw [encodeClientRequest,splitHostPort_append _ rfl]
  dsimp only [Except.bind]
  split_ifs
  · rw [counts_proxy]
    decide
  · exact counts_ok _

/-- A failed dial counts as exhaustion by the text that its failing step reports. -/
theorem counts_dialTcp (hlocal : dial.LocalOk) :
    CountsExhausted libc meow (dialTcp dial) ↔
      ∃ target, targetFromMetadata dial.metadata = .ok target ∧
        ∃ text, DialReports dial target text ∧ ReadsExhausted text := by
  have hopen : LeadIn "hysteria open stream: ".toList := leadIn_of_notMem (by decide)
  have hwrite : LeadIn "hysteria write request: ".toList := leadIn_of_notMem (by decide)
  rw [dialTcp,counts_bind,or_iff_right (counts_targetFromMetadata dial.metadata)]
  apply exists_congr
  intro target
  apply and_congr_right
  intro htarget
  simp only [counts_bind (α := Unit),counts_bind (α := Bytes),connection_ok,counts_connection hlocal,worded_ok,
    counts_worded hopen,counts_worded hwrite,counts_encodeClientRequest htarget,false_or]
  have hresponse : CountsExhausted libc meow
      (if dial.options.fastOpen then .ok () else readServerResponse dial.fault dial.response) ↔
        dial.options.fastOpen = false ∧
          ∃ text, MessageReports dial.fault 4 dial.response text ∧ ReadsExhausted text := by
    cases dial.options.fastOpen with
    | true => simp [counts_ok]
    | false => simp [counts_readServerResponse]
  rw [hresponse]
  constructor
  · rintro (⟨hcached,⟨err,hresolved,hreads⟩ | ⟨addrs,hresolved,text,hreport,hreads⟩⟩ | ⟨_,hconn,⟨text,herr,hreads⟩ |
      ⟨_,hopened,request,hencode,⟨text,herr,hreads⟩ | ⟨_,hwritten,hfast,text,hmessage,hreads⟩⟩⟩)
    · exact ⟨err.message,.resolve hcached hresolved,hreads⟩
    · exact ⟨text,.connect hcached hresolved hreport,hreads⟩
    · exact ⟨text,.openStream hconn herr,hreads⟩
    · exact ⟨text,.write hconn hopened hencode herr,hreads⟩
    · exact ⟨text,.response hconn hopened hencode hwritten hfast hmessage,hreads⟩
  · rintro ⟨text,hreports,hreads⟩
    cases hreports with
    | resolve hcached hresolved => exact .inl ⟨hcached,.inl ⟨_,hresolved,hreads⟩⟩
    | connect hcached hresolved hreport => exact .inl ⟨hcached,.inr ⟨_,hresolved,text,hreport,hreads⟩⟩
    | openStream hconn herr => exact .inr ⟨(),hconn,.inl ⟨text,herr,hreads⟩⟩
    | write hconn hopened hencode herr => exact .inr ⟨(),hconn,.inr ⟨(),hopened,_,hencode,.inl ⟨text,herr,hreads⟩⟩⟩
    | response hconn hopened hencode hwritten hfast hmessage =>
      exact .inr ⟨(),hconn,.inr ⟨(),hopened,_,hencode,.inr ⟨(),hwritten,hfast,text,hmessage,hreads⟩⟩⟩

end RotatorProxy.Hysteria
