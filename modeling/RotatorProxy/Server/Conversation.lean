import RotatorProxy.Library.Outcome
import RotatorProxy.Server.Socks5

/-! Which conversations the SOCKS5 side serves: those of the grammar, with every byte behind the request kept for the
target. -/
namespace RotatorProxy.Server
open Text Proxy Outbound Library

/-- How a request spells the host: its type, and the bytes of an address or of a name with its length. -/
inductive SpellsHost : Bytes → Str → Prop
  | v4 (ip : Ipv4Addr) : SpellsHost (1::ip.octets) ip.display
  | domain (name : Str) (short : (utf8 name).length ≤ 255) :
    SpellsHost (3::UInt8.ofNat (utf8 name).length::utf8 name) name
  | v6 (ip : Ipv6Addr) : SpellsHost (4::ip.octets) ip.display

lemma SpellsHost.eq_cons {address : Bytes} {host : Str} (h : SpellsHost address host) : ∃ atyp tail, address=atyp::tail := by
  cases h <;> exact ⟨_,_,rfl⟩

/-- A greeting with these methods. -/
def greeting (methods : Bytes) : Bytes := [5,UInt8.ofNat methods.length]++methods

/-- The request with this command for this target stands at the beginning. -/
structure IsRequest (bytes : Bytes) (request : Socks5Request) (rest : Bytes) : Prop where
  spelled : ∃ reserved address, SpellsHost address request.target.host ∧
    bytes=[5,request.command,reserved]++address++toBeBytes request.target.port++rest

/-- A greeting that offers no authentication, and a request behind it. -/
structure Asks (stream : Bytes) (request : Socks5Request) (rest : Bytes) : Prop where
  greeted : ∃ methods bytes, stream=greeting methods++bytes ∧ methods.length ≤ 255 ∧ 0 ∈ methods ∧
    IsRequest bytes request rest

/-! The readers -/

section
variable {libc : Libc} {ending : Ending} {bytes : Bytes}

lemma readExact_ok {n : ℕ} {read : Bytes} {left : Incoming} : readExact libc n ⟨bytes,ending⟩ = .ok (read,left) ↔
    ∃ rest, bytes=read++rest ∧ read.length=n ∧ left=⟨rest,ending⟩ := by
  constructor
  · intro h
    unfold readExact at h
    split_ifs at h with hle
    · cases h
      exact ⟨_,(List.take_append_drop n bytes).symm,List.length_take_of_le hle,rfl⟩
    · cases ending <;> cases h
  · rintro ⟨rest,rfl,hlen,rfl⟩
    exact readExact_append hlen rest ending

lemma readExact_bind_ok {α : Type} {n : ℕ} {next : Bytes × Incoming → Except IoError α} {a : α} :
    (readExact libc n ⟨bytes,ending⟩).bind next = .ok a ↔
      ∃ read rest, bytes=read++rest ∧ read.length=n ∧ next (read,⟨rest,ending⟩) = .ok a := by
  rw [bind_eq_ok]
  constructor
  · rintro ⟨⟨read,_⟩,hread,hnext⟩
    obtain ⟨rest,hbytes,hlen,rfl⟩ := readExact_ok.mp hread
    exact ⟨read,rest,hbytes,hlen,hnext⟩
  · rintro ⟨read,rest,hbytes,hlen,hnext⟩
    exact ⟨_,readExact_ok.mpr ⟨rest,hbytes,hlen,rfl⟩,hnext⟩

/-- Two bytes are those of the number that is read from them. -/
lemma toBeBytes_fromBeBytes {hi lo : UInt8} : toBeBytes (fromBeBytes hi lo)=[hi,lo] := by
  have hhi := hi.toNat_lt
  have hlo := lo.toNat_lt
  have hnat : (fromBeBytes hi lo).toNat=hi.toNat*256+lo.toNat := by
    rw [fromBeBytes,UInt16.toNat_ofNat']
    omega
  unfold toBeBytes
  rw [hnat]
  have hdiv : (hi.toNat*256+lo.toNat)/256=hi.toNat := by omega
  have hmod : (hi.toNat*256+lo.toNat)%256=lo.toNat := by omega
  rw [hdiv,hmod,UInt8.ofNat_toNat,UInt8.ofNat_toNat]

lemma targetAddr_ok {host : Str} {port : UInt16} {target : TargetAddr} :
    targetAddr (TargetAddr.new host port) = .ok target ↔ host=target.host ∧ port=target.port := by
  constructor
  · intro h
    unfold targetAddr at h
    cases hnew : TargetAddr.new host port with
    | error err =>
      rw [hnew] at h
      cases h
    | ok found =>
      rw [hnew] at h
      cases h
      obtain ⟨hhost,hport⟩ := TargetAddr.new_eq_ok hnew
      exact ⟨hhost.symm,hport.symm⟩
  · rintro ⟨rfl,rfl⟩
    exact targetAddr_new (TargetAddr.new_ok _ target.not_blank)

lemma targetAddr_map_ok {α : Type} {host : Str} {port : UInt16} {f : TargetAddr → α} {a : α} :
    (targetAddr (TargetAddr.new host port)).map f = .ok a ↔ ∃ target : TargetAddr, host=target.host ∧ port=target.port ∧
      f target=a := by
  rw [map_eq_ok]
  simp only [targetAddr_ok,and_assoc]

/-! Bytes of a fixed number -/

lemma two_bytes {read : Bytes} (h : read.length=2) : ∃ port : UInt16, read=toBeBytes port := by
  obtain ⟨hi,lo,rfl⟩ := List.length_eq_two.mp h
  exact ⟨_,toBeBytes_fromBeBytes.symm⟩

lemma six_bytes {read : Bytes} (h : read.length=6) : ∃ ip : Ipv4Addr, ∃ port : UInt16, read=ip.octets++toBeBytes port := by
  obtain ⟨a,b,c,d,rest,rfl⟩ : ∃ a b c d rest, read=a::b::c::d::rest := by
    match read,h with
    | a::b::c::d::rest,_ => exact ⟨a,b,c,d,rest,rfl⟩
  obtain ⟨port,rfl⟩ := two_bytes (Nat.add_right_cancel (m := 4) h)
  exact ⟨⟨a,b,c,d⟩,port,rfl⟩

lemma octets_ofOctets (octet : Fin 16 → UInt8) : (Ipv6Addr.ofOctets octet).octets=List.ofFn octet := by
  have hpair : ∀ hi lo : UInt8, [UInt8.ofNat ((fromBeBytes hi lo).toNat/256),UInt8.ofNat ((fromBeBytes hi lo).toNat%256)]=
      [hi,lo] := fun _ _ => toBeBytes_fromBeBytes
  simp only [Ipv6Addr.ofOctets,Ipv6Addr.octets,List.ofFn_succ,List.ofFn_zero,List.flatMap_cons,List.flatMap_nil,hpair]
  rfl

lemma sixteen_bytes {read : Bytes} (h : read.length=16) : ∃ ip : Ipv6Addr, read=ip.octets := by
  refine ⟨.ofOctets fun i => read[i],?_⟩
  rw [octets_ofOctets]
  refine List.ext_getElem (h.trans List.length_ofFn.symm) fun i hi _ => ?_
  rw [List.getElem_ofFn]
  rfl

lemma eighteen_bytes {read : Bytes} (h : read.length=18) :
    ∃ ip : Ipv6Addr, ∃ port : UInt16, read=ip.octets++toBeBytes port := by
  have htake : (read.take 16).length=16 := by
    rw [List.length_take,h]
    rfl
  have hdrop : (read.drop 16).length=2 := by rw [List.length_drop,h]
  obtain ⟨ip,hip⟩ := sixteen_bytes htake
  obtain ⟨port,hport⟩ := two_bytes hdrop
  exact ⟨ip,port,by rw [← hip,← hport,List.take_append_drop]⟩

/-! A destination -/

lemma readSocks5Target_v4 {target : TargetAddr} {left : Incoming} :
    readSocks5Target libc 1 ⟨bytes,ending⟩ = .ok (target,left) ↔ ∃ ip rest, left=⟨rest,ending⟩ ∧
      target.host=Ipv4Addr.display ip ∧ bytes=ip.octets++toBeBytes target.port++rest := by
  unfold readSocks5Target
  rw [if_pos rfl,readExact_bind_ok]
  simp only [targetAddr_map_ok,Prod.mk.injEq]
  constructor
  · rintro ⟨read,rest,rfl,hlen,_,hhost,hport,rfl,rfl⟩
    obtain ⟨ip,port,rfl⟩ := six_bytes hlen
    refine ⟨ip,rest,rfl,hhost.symm.trans (dotted_octets ip),?_⟩
    rw [← hport]
    exact congrArg (ip.octets++toBeBytes ·++rest) (fromBeBytes_toBeBytes port).symm
  · rintro ⟨ip,rest,rfl,hhost,rfl⟩
    exact ⟨ip.octets++toBeBytes target.port,rest,rfl,rfl,target,(dotted_octets ip).trans hhost.symm,
      fromBeBytes_toBeBytes target.port,rfl,rfl⟩

lemma readSocks5Target_v6 {target : TargetAddr} {left : Incoming} :
    readSocks5Target libc 4 ⟨bytes,ending⟩ = .ok (target,left) ↔ ∃ ip rest, left=⟨rest,ending⟩ ∧
      target.host=Ipv6Addr.display ip ∧ bytes=ip.octets++toBeBytes target.port++rest := by
  have hport : ∀ (ip : Ipv6Addr) (port : UInt16), fromBeBytes ((ip.octets++toBeBytes port).getD 16 0)
      ((ip.octets++toBeBytes port).getD 17 0) = port := by
    intro ip port
    rw [List.getD_append_right _ _ _ _ (by simp),List.getD_append_right _ _ _ _ (by simp),ip.octets_length]
    exact fromBeBytes_toBeBytes port
  unfold readSocks5Target
  rw [if_neg (by decide),if_neg (by decide),if_pos rfl,readExact_bind_ok]
  simp only [targetAddr_map_ok,Prod.mk.injEq]
  constructor
  · rintro ⟨read,rest,rfl,hlen,_,hhost,hread,rfl,rfl⟩
    obtain ⟨ip,port,rfl⟩ := eighteen_bytes hlen
    rw [hport] at hread
    rw [Ipv6Addr.ofOctets_octets] at hhost
    exact ⟨ip,rest,rfl,hhost.symm,by rw [hread]⟩
  · rintro ⟨ip,rest,rfl,hhost,rfl⟩
    have hlen : (ip.octets++toBeBytes target.port).length=18 := by
      rw [List.length_append,ip.octets_length]
      rfl
    refine ⟨ip.octets++toBeBytes target.port,rest,rfl,hlen,target,?_,hport ip target.port,rfl,rfl⟩
    rw [Ipv6Addr.ofOctets_octets,hhost]

lemma readSocks5Target_domain {target : TargetAddr} {left : Incoming} :
    readSocks5Target libc 3 ⟨bytes,ending⟩ = .ok (target,left) ↔ ∃ rest, left=⟨rest,ending⟩ ∧
      (utf8 target.host).length ≤ 255 ∧
        bytes=UInt8.ofNat (utf8 target.host).length::utf8 target.host++toBeBytes target.port++rest := by
  unfold readSocks5Target
  rw [if_neg (by decide),if_pos rfl]
  simp only [readExact_bind_ok]
  constructor
  · rintro ⟨len,_,rfl,hone,domain,_,rfl,hlen,port,rest,rfl,htwo,h⟩
    obtain ⟨n,rfl⟩ := List.length_eq_one_iff.mp hone
    obtain ⟨port,rfl⟩ := two_bytes htwo
    cases hdomain : fromUtf8 domain with
    | none => simp [hdomain] at h
    | some host =>
      rw [hdomain] at h
      obtain ⟨_,rfl,hport,h⟩ := targetAddr_map_ok.mp h
      cases h
      have hbytes := utf8_of_fromUtf8 hdomain
      refine ⟨rest,rfl,?_,?_⟩
      · rw [hbytes,hlen]
        exact Nat.le_of_lt_succ n.toNat_lt
      · have hbyte : UInt8.ofNat domain.length=n := by
          rw [hlen]
          exact UInt8.ofNat_toNat
        have hread : fromBeBytes ((toBeBytes port).getD 0 0) ((toBeBytes port).getD 1 0)=port := fromBeBytes_toBeBytes port
        rw [hbytes,hbyte,← hport,hread,List.append_assoc]
        rfl
  · rintro ⟨rest,rfl,hshort,rfl⟩
    have hbyte : (UInt8.ofNat (utf8 target.host).length).toNat=(utf8 target.host).length := by
      rw [UInt8.toNat_ofNat',Nat.mod_eq_of_lt (by omega)]
    refine ⟨[UInt8.ofNat (utf8 target.host).length],_,rfl,rfl,utf8 target.host,_,List.append_assoc _ _ _,hbyte.symm,
      toBeBytes target.port,rest,rfl,rfl,?_⟩
    rw [fromUtf8_utf8]
    exact targetAddr_map_ok.mpr ⟨target,rfl,fromBeBytes_toBeBytes target.port,rfl⟩

/-- An address is read as the grammar spells it. -/
lemma readSocks5Target_ok {atyp : UInt8} {target : TargetAddr} {left : Incoming} :
    readSocks5Target libc atyp ⟨bytes,ending⟩ = .ok (target,left) ↔ ∃ tail rest, left=⟨rest,ending⟩ ∧
      SpellsHost (atyp::tail) target.host ∧ bytes=tail++toBeBytes target.port++rest := by
  constructor
  · intro h
    by_cases hv4 : atyp=1
    · subst hv4
      obtain ⟨ip,rest,rfl,hhost,rfl⟩ := readSocks5Target_v4.mp h
      exact ⟨_,rest,rfl,hhost ▸ .v4 ip,rfl⟩
    by_cases hdomain : atyp=3
    · subst hdomain
      obtain ⟨rest,rfl,hshort,rfl⟩ := readSocks5Target_domain.mp h
      exact ⟨_,rest,rfl,.domain _ hshort,rfl⟩
    by_cases hv6 : atyp=4
    · subst hv6
      obtain ⟨ip,rest,rfl,hhost,rfl⟩ := readSocks5Target_v6.mp h
      exact ⟨_,rest,rfl,hhost ▸ .v6 ip,rfl⟩
    · rw [readSocks5Target,if_neg hv4,if_neg hdomain,if_neg hv6] at h
      cases h
  · rintro ⟨tail,rest,rfl,hspells,rfl⟩
    generalize hhost : target.host=host at hspells
    cases hspells with
    | v4 ip => exact readSocks5Target_v4.mpr ⟨ip,rest,rfl,hhost,rfl⟩
    | domain _ hshort =>
      subst hhost
      exact readSocks5Target_domain.mpr ⟨rest,rfl,hshort,rfl⟩
    | v6 ip => exact readSocks5Target_v6.mpr ⟨ip,rest,rfl,hhost,rfl⟩

lemma readSocks5Request_ok {request : Socks5Request} {left : Incoming} :
    readSocks5Request libc ⟨bytes,ending⟩ = .ok (request,left) ↔
      ∃ rest, left=⟨rest,ending⟩ ∧ IsRequest bytes request rest := by
  unfold readSocks5Request
  rw [readExact_bind_ok]
  constructor
  · rintro ⟨head,bytes,rfl,hlen,h⟩
    obtain ⟨version,command,reserved,atyp,rfl⟩ : ∃ version command reserved atyp, head=[version,command,reserved,atyp] := by
      match head,hlen with
      | [version,command,reserved,atyp],_ => exact ⟨version,command,reserved,atyp,rfl⟩
    dsimp only at h
    split_ifs at h with hversion
    obtain ⟨⟨target,_⟩,htarget,hrequest⟩ := map_eq_ok.mp h
    cases hrequest
    obtain ⟨tail,rest,rfl,hspells,rfl⟩ := readSocks5Target_ok.mp htarget
    have hfive : version=5 := not_not.mp hversion
    subst hfive
    exact ⟨rest,rfl,reserved,atyp::tail,hspells,rfl⟩
  · rintro ⟨rest,rfl,⟨reserved,address,hspells,rfl⟩⟩
    obtain ⟨atyp,tail,rfl⟩ := hspells.eq_cons
    refine ⟨[5,request.command,reserved,atyp],tail++toBeBytes request.target.port++rest,by simp,rfl,?_⟩
    dsimp only
    rw [if_neg (by simp)]
    exact map_eq_ok.mpr ⟨_,readSocks5Target_ok.mpr ⟨tail,rest,rfl,hspells,rfl⟩,rfl⟩

/-! The conversation -/

/-- What the client has been told when it has not asked for anything. -/
def refusals : List Bytes := [[],[5,255],[5,0]++socks5Reply 1]

variable (libc ending) in
/-- What is asked is read behind the greeting. -/
lemma handleSocks5_asks (connect : TargetAddr → Except IoError Unit) {stream : Bytes} {request : Socks5Request} {rest : Bytes}
    (h : Asks stream request rest) : ∃ bytes,
    handleSocks5 libc connect ⟨stream,ending⟩=handleSocks5Request libc connect ⟨bytes,ending⟩ ∧
      readSocks5Request libc ⟨bytes,ending⟩ = .ok (request,⟨rest,ending⟩) := by
  obtain ⟨methods,bytes,rfl,hlen,hfree,hrequest⟩ := h.greeted
  have hbyte : (UInt8.ofNat methods.length).toNat=methods.length := by
    rw [UInt8.toNat_ofNat',Nat.mod_eq_of_lt (by omega)]
  have hcount : [5,UInt8.ofNat methods.length].getD 1 0=UInt8.ofNat methods.length := rfl
  refine ⟨bytes,?_,readSocks5Request_ok.mpr ⟨rest,rfl,hrequest⟩⟩
  unfold handleSocks5 greeting
  rw [List.append_assoc,readExact_append (n := 2) (a := [5,UInt8.ofNat methods.length]) rfl]
  dsimp only
  rw [if_neg (by simp),hcount,hbyte,readExact_append rfl]
  dsimp only
  exact if_neg (not_not.mpr hfree)

variable (libc ending) in
lemma handleSocks5_refuses (connect : TargetAddr → Except IoError Unit) {stream : Bytes}
    (h : ∀ request rest, ¬Asks stream request rest) :
    ∃ told err, handleSocks5 libc connect ⟨stream,ending⟩ = .closed told err ∧ told ∈ refusals := by
  unfold handleSocks5
  cases hhead : readExact libc 2 ⟨stream,ending⟩ with
  | error err => exact ⟨[],err,rfl,by simp [refusals]⟩
  | ok read =>
    obtain ⟨head,_⟩ := read
    obtain ⟨bytes,rfl,htwo,rfl⟩ := readExact_ok.mp hhead
    obtain ⟨version,n,rfl⟩ := List.length_eq_two.mp htwo
    have hfirst : [version,n].getD 0 0=version := rfl
    have hsecond : [version,n].getD 1 0=n := rfl
    dsimp only
    rw [hfirst,hsecond]
    by_cases hversion : version ≠ 5
    · rw [if_pos hversion]
      exact ⟨[],_,rfl,by simp [refusals]⟩
    · rw [if_neg hversion]
      cases hmethods : readExact libc n.toNat ⟨bytes,ending⟩ with
      | error err => exact ⟨[],err,rfl,by simp [refusals]⟩
      | ok read =>
        obtain ⟨methods,_⟩ := read
        obtain ⟨bytes,rfl,hlen,rfl⟩ := readExact_ok.mp hmethods
        dsimp only
        by_cases hfree : 0 ∉ methods
        · rw [if_pos hfree]
          exact ⟨[5,255],_,rfl,by simp [refusals]⟩
        · rw [if_neg hfree,handleSocks5Request]
          cases hrequest : readSocks5Request libc ⟨bytes,ending⟩ with
          | error err => exact ⟨[5,0]++socks5Reply 1,err,rfl,by simp [refusals]⟩
          | ok read =>
            obtain ⟨request,_⟩ := read
            obtain ⟨rest,rfl,hasked⟩ := readSocks5Request_ok.mp hrequest
            refine absurd ⟨⟨methods,bytes,?_,?_,not_not.mp hfree,hasked⟩⟩ (h request rest)
            · rw [greeting,hlen,UInt8.ofNat_toNat,not_not.mp hversion,List.append_assoc]
            · rw [hlen]
              exact Nat.le_of_lt_succ n.toNat_lt

variable {connect : TargetAddr → Except IoError Unit} {stream rest : Bytes} {request : Socks5Request} {target : TargetAddr}

variable (libc ending) in
lemma Asks.relayed (h : Asks stream ⟨1,target⟩ rest) (hok : connect target = .ok ()) :
    handleSocks5 libc connect ⟨stream,ending⟩ = .relayed target ([5,0]++socks5Reply 0) rest := by
  obtain ⟨bytes,hsame,hread⟩ := handleSocks5_asks libc ending connect h
  rw [hsame,handleSocks5Request,hread]
  dsimp only
  rw [if_neg (not_not.mpr rfl),hok]

variable (libc ending) in
lemma Asks.unreachable {err : IoError} (h : Asks stream ⟨1,target⟩ rest) (herr : connect target = .error err) :
    handleSocks5 libc connect ⟨stream,ending⟩ = .closed ([5,0]++socks5Reply 5) err := by
  obtain ⟨bytes,hsame,hread⟩ := handleSocks5_asks libc ending connect h
  rw [hsame,handleSocks5Request,hread]
  dsimp only
  rw [if_neg (not_not.mpr rfl),herr]

variable (libc ending connect) in
lemma Asks.otherCommand (h : Asks stream request rest) (hcommand : request.command ≠ 1) :
    ∃ err, handleSocks5 libc connect ⟨stream,ending⟩ = .closed ([5,0]++socks5Reply 7) err := by
  obtain ⟨bytes,hsame,hread⟩ := handleSocks5_asks libc ending connect h
  rw [hsame,handleSocks5Request,hread]
  exact ⟨_,if_pos hcommand⟩

/-- The answers to a stream, each with its reason. -/
inductive Answered (connect : TargetAddr → Except IoError Unit) (stream : Bytes) : Socks5Outcome → Prop
  | relayed {target : TargetAddr} {rest : Bytes} (asked : Asks stream ⟨1,target⟩ rest)
    (connected : connect target = .ok ()) : Answered connect stream (.relayed target ([5,0]++socks5Reply 0) rest)
  | unreachable {target : TargetAddr} {rest : Bytes} {err : IoError} (asked : Asks stream ⟨1,target⟩ rest)
    (failed : connect target = .error err) : Answered connect stream (.closed ([5,0]++socks5Reply 5) err)
  | otherCommand {request : Socks5Request} {rest : Bytes} {err : IoError} (asked : Asks stream request rest)
    (other : request.command ≠ 1) : Answered connect stream (.closed ([5,0]++socks5Reply 7) err)
  | refused {told : Bytes} {err : IoError} (nothing : ∀ request rest, ¬Asks stream request rest)
    (refusal : told ∈ refusals) : Answered connect stream (.closed told err)

variable (libc ending connect stream) in
lemma handleSocks5_answered : Answered connect stream (handleSocks5 libc connect ⟨stream,ending⟩) := by
  by_cases hasks : ∃ request rest, Asks stream request rest
  · obtain ⟨⟨command,target⟩,rest,hasked⟩ := hasks
    by_cases hcommand : command=1
    · subst hcommand
      cases hconnect : connect target with
      | error err =>
        rw [hasked.unreachable libc ending hconnect]
        exact .unreachable hasked hconnect
      | ok u =>
        rw [hasked.relayed libc ending hconnect]
        exact .relayed hasked hconnect
    · obtain ⟨err,hclosed⟩ := hasked.otherCommand libc ending connect hcommand
      rw [hclosed]
      exact .otherCommand hasked hcommand
  · have hnothing : ∀ request rest, ¬Asks stream request rest := fun request rest h => hasks ⟨request,rest,h⟩
    obtain ⟨told,err,hclosed,hrefusal⟩ := handleSocks5_refuses libc ending connect hnothing
    rw [hclosed]
    exact .refused hnothing hrefusal

/-- What the client was told shows why its connection was closed. -/
lemma Answered.closed {told : Bytes} {err : IoError} (h : Answered connect stream (.closed told err)) :
    told=[5,0]++socks5Reply 5 ∧ (∃ target rest, Asks stream ⟨1,target⟩ rest ∧ connect target = .error err) ∨
    told=[5,0]++socks5Reply 7 ∧ (∃ request rest, Asks stream request rest ∧ request.command ≠ 1) ∨
    told ∈ refusals ∧ ∀ request rest, ¬Asks stream request rest := by
  cases h with
  | unreachable hasked hfailed => exact .inl ⟨rfl,_,_,hasked,hfailed⟩
  | otherCommand hasked hother => exact .inr (.inl ⟨rfl,_,_,hasked,hother⟩)
  | refused hnothing hrefusal => exact .inr (.inr ⟨hrefusal,hnothing⟩)

/-- A conversation is served just when it asks for a CONNECT to a target that can be connected, and the target is sent what
stands behind the request, from the first byte to the last. Another command and a target that cannot be connected are
answered as such, and a client is refused just when it asks for nothing. -/
theorem socks5_served_iff (libc : Libc) (ending : Ending) (connect : TargetAddr → Except IoError Unit) (stream : Bytes) :
    (∀ target told sent, handleSocks5 libc connect ⟨stream,ending⟩ = .relayed target told sent ↔
      Asks stream ⟨1,target⟩ sent ∧ connect target = .ok () ∧ told=[5,0]++socks5Reply 0) ∧
    (∀ err, handleSocks5 libc connect ⟨stream,ending⟩ = .closed ([5,0]++socks5Reply 5) err ↔
      ∃ target rest, Asks stream ⟨1,target⟩ rest ∧ connect target = .error err) ∧
    ((∃ err, handleSocks5 libc connect ⟨stream,ending⟩ = .closed ([5,0]++socks5Reply 7) err) ↔
      ∃ request rest, Asks stream request rest ∧ request.command ≠ 1) ∧
    ((∃ told err, handleSocks5 libc connect ⟨stream,ending⟩ = .closed told err ∧ told ∈ refusals) ↔
      ∀ request rest, ¬Asks stream request rest) := by
  have hanswered := handleSocks5_answered libc ending connect stream
  refine ⟨fun target told sent => ⟨fun h => ?_,?_⟩,fun err => ⟨fun h => ?_,?_⟩,⟨?_,?_⟩,⟨?_,?_⟩⟩
  · rw [h] at hanswered
    cases hanswered with
    | relayed hasked hok => exact ⟨hasked,hok,rfl⟩
  · rintro ⟨hasked,hok,rfl⟩
    exact hasked.relayed libc ending hok
  · rw [h] at hanswered
    obtain ⟨-,hreason⟩ | ⟨htold,-⟩ | ⟨hmem,-⟩ := hanswered.closed
    · exact hreason
    · exact absurd htold (by decide)
    · exact absurd hmem (by decide)
  · rintro ⟨target,rest,hasked,herr⟩
    exact hasked.unreachable libc ending herr
  · rintro ⟨err,h⟩
    rw [h] at hanswered
    obtain ⟨htold,-⟩ | ⟨-,hreason⟩ | ⟨hmem,-⟩ := hanswered.closed
    · exact absurd htold (by decide)
    · exact hreason
    · exact absurd hmem (by decide)
  · rintro ⟨request,rest,hasked,hcommand⟩
    exact hasked.otherCommand libc ending connect hcommand
  · rintro ⟨told,err,h,hmem⟩
    rw [h] at hanswered
    obtain ⟨rfl,-⟩ | ⟨rfl,-⟩ | ⟨-,hnothing⟩ := hanswered.closed
    · exact absurd hmem (by decide)
    · exact absurd hmem (by decide)
    · exact hnothing
  · exact handleSocks5_refuses libc ending connect

end

end RotatorProxy.Server
