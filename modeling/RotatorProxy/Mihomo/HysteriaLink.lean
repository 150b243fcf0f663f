import RotatorProxy.Link.Address
import RotatorProxy.Mihomo.Keys
import RotatorProxy.Mihomo.Links

/-! Hysteria links. What a link says is written into a mapping, which `build_hysteria` reads back, both under
several names. -/
namespace RotatorProxy.Mihomo
open Text Proxy Link ClashProxyDocument Library

/-! What a link says -/

def linkAuth (env : LinkExternals) (url : Url) : Option Str :=
  ((queryParam url "auth".toList).or (queryParam url "password".toList)).or
    (nonEmpty (some (decodeUrlComponent env url.username)))

def linkSni (url : Url) : Option Str := (queryParam url "sni".toList).or (queryParam url "peer".toList)

def linkAlpn (url : Url) : List Str := ((queryParam url "alpn".toList).map commaList).getD []

/-- Megabits in bits, up to the greatest `u64` -/
def megabits (n : ℕ) : ℕ := min (n*1000000) (2^64-1)

/-- The text is a number and nothing else. -/
def IsNumber (text : Str) (n : ℕ) : Prop :=
  trim text ≠ [] ∧ (trim text).all Char.isDigit = true ∧ Nat.ofDigitChars 10 (trim text) 0=n

/-- What the adapter is to have of its link. -/
structure Carries (env : LinkExternals) (url : Url) (options : HysteriaOptions) : Prop where
  server : url.hostStr=some options.server
  port : url.port=some options.port
  auth : ∃ auth, linkAuth env url=some auth ∧ options.auth=utf8 auth
  sni : options.sni=linkSni url
  alpn : options.alpn=(linkAlpn url).headD "hysteria".toList
  skipCertVerify : options.skipCertVerify=(queryParam url "insecure".toList).any isOn
  up : ∀ text n, queryParam url "upmbps".toList=some text → IsNumber text n → options.upBps=megabits n
  down : ∀ text n, queryParam url "downmbps".toList=some text → IsNumber text n → options.downBps=megabits n

/-! When it has -/

/-- The digits that a text begins with, if they make a `u64`. -/
def leadingNumber (text : Str) : Option ℕ := parseU64 ((trim text).takeWhile Char.isDigit)

/-- The units of a rate and their factors -/
def rateUnits : List (List Str × ℕ) :=
  [([[],"b".toList,"bps".toList],1),(["k".toList,"kb".toList,"kbps".toList],1000),
    (["m".toList,"mb".toList,"mbps".toList],1000000),(["g".toList,"gb".toList,"gbps".toList],1000000000)]

/-- The text gives a rate with its unit, such as `100 Mbps`. -/
def WritesRate (text : Str) (rate : ℕ) : Prop :=
  ∃ number, leadingNumber text=some number ∧ ∃ unit ∈ rateUnits,
    toAsciiLowercase (trim ((trim text).dropWhile Char.isDigit)) ∈ unit.1 ∧ rate=min (number*unit.2) (2^64-1)

/-- Of the query values for one direction (`up`, `up_mbps` and `upmbps`) the last one names a number, and the
others do not get in its way. -/
def RateKept (rate other mbps : Option Str) : Prop :=
  ∀ text n, mbps=some text → IsNumber text n →
    (∀ value r, rate=some value → WritesRate value r → r=megabits n) ∧
      ((∀ value r, rate=some value → ¬WritesRate value r) →
        match nonEmpty other with
        | some value => megabits ((leadingNumber value).getD 0)=megabits n
        | none => n < 2^64)

/-- The first entry of the `alpn` list, if there is one, is the default. -/
structure HysteriaKept (url : Url) : Prop where
  alpn : (linkAlpn url).headD "hysteria".toList="hysteria".toList
  up : RateKept (queryParam url "up".toList) (queryParam url "up_mbps".toList) (queryParam url "upmbps".toList)
  down : RateKept (queryParam url "down".toList) (queryParam url "down_mbps".toList)
    (queryParam url "downmbps".toList)

/-! Bandwidths -/

lemma drop_takeWhile_length {α : Type} (p : α → Bool) (l : List α) : l.drop (l.takeWhile p).length=l.dropWhile p := by
  induction l with
  | nil => rfl
  | cons a l ih =>
    cases h : p a with
    | true => simp [h,ih]
    | false => simp [h]

section
variable {text key : Str} {n rate : ℕ}

lemma parseU64_lt (h : parseU64 text=some n) : n < 2^64 := by
  unfold parseU64 at h
  dsimp only at h
  split_ifs at h with hdigits
  cases h
  exact hdigits.2.2

lemma leadingNumber_none (h : trim text=[]) : leadingNumber text=none := by
  rw [leadingNumber,h]
  rfl

lemma parseHyBandwidth_mbps (hkey : "mbps".toList <:+: key) :
    parseHyBandwidth text key=(leadingNumber text).map megabits := by
  unfold parseHyBandwidth
  dsimp only
  split_ifs with h
  · rw [leadingNumber_none h]
    rfl
  · rw [Option.map_eq_bind]
    rfl

/-- No unit has two factors. -/
lemma rateUnits_unique {s : Str} {number rate : ℕ} (h : number < 2^64) :
    (if s ∈ [[],"b".toList,"bps".toList] then some number
      else if s ∈ ["k".toList,"kb".toList,"kbps".toList] then some (saturatingMul number 1000)
      else if s ∈ ["m".toList,"mb".toList,"mbps".toList] then some (saturatingMul number 1000000)
      else if s ∈ ["g".toList,"gb".toList,"gbps".toList] then some (saturatingMul number 1000000000)
      else none)=some rate ↔ ∃ unit ∈ rateUnits, s ∈ unit.1 ∧ rate=min (number*unit.2) (2^64-1) := by
  have hone : min (number*1) (2^64-1)=number := by omega
  have hapart : rateUnits.Pairwise (fun a b => ∀ unit ∈ a.1, unit ∉ b.1) := by simp [rateUnits]
  simp only [rateUnits,List.pairwise_cons,List.mem_cons,List.not_mem_nil,or_false,forall_eq_or_imp,forall_eq] at hapart
  simp only [rateUnits,List.exists_mem_cons_iff,List.not_mem_nil,false_and,exists_false,or_false,saturatingMul,hone]
  split_ifs with hb hk hm hg
  · grind
  · grind
  · grind
  · grind
  · simp only [hb,hk,hm,hg,false_and,or_self]

lemma parseHyBandwidth_eq_some_iff (hkey : ¬"mbps".toList <:+: key) :
    parseHyBandwidth text key=some rate ↔ WritesRate text rate := by
  unfold parseHyBandwidth
  by_cases h : trim text=[]
  · simp [WritesRate,leadingNumber_none h,h]
  · simp only [if_neg h,if_neg hkey,drop_takeWhile_length,Option.bind_eq_some_iff,WritesRate]
    exact exists_congr fun number => and_congr_right fun hnumber => rateUnits_unique (parseU64_lt hnumber)

/-- The rate that a mapping gives under one of the first two of four names -/
lemma hyBandwidthBps_eq {mapping : Mapping} {rate mbps : Option Str} {first second third fourth : Str}
    (hfirst : mapping.get first=rate.map .string) (hsecond : mapping.get second=mbps.map .string)
    (hthird : mapping.get third=none) (hfourth : mapping.get fourth=none) :
    hyBandwidthBps mapping [first,second,third,fourth]=
      (rate.bind (parseHyBandwidth · first)).or (mbps.bind (parseHyBandwidth · second)) := by
  have hread : ∀ (value : Option Str) (key : Str), ((value.map YamlValue.string).bind valueToString).bind
      (fun raw => parseHyBandwidth raw key)=value.bind (parseHyBandwidth · key) := by
    intro value key
    cases value <;> rfl
  simp only [hyBandwidthBps,List.findSome?_cons,hfirst,hsecond,hthird,hfourth,hread]
  cases rate.bind (parseHyBandwidth · first) with
  | some r => rfl
  | none =>
    cases mbps.bind (parseHyBandwidth · second) <;> rfl

lemma leadingNumber_of_isNumber (h : IsNumber text n) : leadingNumber text=if n < 2^64 then some n else none := by
  obtain ⟨hne,hdigits,rfl⟩ := h
  have htake : (trim text).takeWhile Char.isDigit=trim text := by
    rw [List.takeWhile_eq_self_iff]
    exact List.all_eq_true.mp hdigits
  have hplus : stripPrefix '+' (trim text)=none := by
    cases hchars : trim text with
    | nil => rfl
    | cons c cs =>
      rw [stripPrefix,if_neg]
      rintro rfl
      rw [hchars,List.all_cons] at hdigits
      cases hdigits
  rw [leadingNumber,htake,parseU64,hplus]
  simp [hne,hdigits]

lemma megabits_eq_zero_iff : megabits n=0 ↔ n=0 := by
  unfold megabits
  omega

lemma megabits_kept_iff (h : IsNumber text n) :
    ((leadingNumber text).map megabits).getD 0=megabits n ↔ n < 2^64 := by
  rw [leadingNumber_of_isNumber h]
  by_cases hlt : n < 2^64
  · rw [if_pos hlt,Option.map_some,Option.getD_some]
    exact iff_of_true rfl hlt
  · rw [if_neg hlt,Option.map_none,Option.getD_none,eq_comm,megabits_eq_zero_iff]
    omega

lemma WritesRate.ne_nil (h : WritesRate text rate) : text ≠ [] := by
  rintro rfl
  obtain ⟨number,hnumber,-⟩ := h
  cases hnumber

/-- What the three query values of one direction come to -/
lemma rate_iff {value other mbps : Option Str} (first second : Str) (hfirst : ¬"mbps".toList <:+: first)
    (hsecond : "mbps".toList <:+: second) :
    (∀ text n, mbps=some text → IsNumber text n → (((nonEmpty value).bind (parseHyBandwidth · first)).or
      (((nonEmpty other).or (nonEmpty mbps)).bind (parseHyBandwidth · second))).getD 0=megabits n) ↔
    RateKept value other mbps := by
  refine forall₂_congr fun text n => forall₂_congr fun hmbps hnumber => ?_
  have hparse : ∀ r, (nonEmpty value).bind (parseHyBandwidth · first)=some r ↔
      ∃ text, value=some text ∧ WritesRate text r := by
    intro r
    simp only [Option.bind_eq_some_iff,parseHyBandwidth_eq_some_iff hfirst,nonEmpty,Option.filter_eq_some_iff]
    exact exists_congr fun text => ⟨fun h => ⟨h.1.1,h.2⟩,fun h => ⟨⟨h.1,by simpa using h.2.ne_nil⟩,h.2⟩⟩
  cases hrate : (nonEmpty value).bind (parseHyBandwidth · first) with
  | some r =>
    obtain ⟨text',hvalue,hwrites⟩ := (hparse r).mp hrate
    constructor
    · intro h
      refine ⟨fun text'' r' hvalue' hwrites' => ?_,fun h' => absurd hwrites (h' _ _ hvalue)⟩
      have hr : some r=some r' := hrate.symm.trans ((hparse r').mpr ⟨_,hvalue',hwrites'⟩)
      rw [← Option.some.inj hr]
      exact h
    · exact fun h => h.1 _ _ hvalue hwrites
  | none =>
    have hnone : ∀ text r, value=some text → ¬WritesRate text r := by
      intro text r hvalue hwrites
      rw [(hparse r).mpr ⟨text,hvalue,hwrites⟩] at hrate
      cases hrate
    rw [Option.none_or,and_iff_right fun text r hvalue hwrites => absurd hwrites (hnone text r hvalue),
      imp_iff_right hnone]
    cases nonEmpty other with
    | some text' =>
      rw [Option.some_or,Option.bind_some,parseHyBandwidth_mbps hsecond]
      have hget := Option.getD_map megabits 0 (leadingNumber text')
      rw [megabits_eq_zero_iff.mpr rfl] at hget
      rw [hget]
    | none =>
      have hne : nonEmpty mbps=some text := by
        rw [hmbps,nonEmpty,Option.filter_some,if_pos]
        rw [decide_eq_true_eq]
        rintro rfl
        exact hnumber.1 rfl
      rw [Option.none_or,hne,Option.bind_some,parseHyBandwidth_mbps hsecond]
      exact megabits_kept_iff hnumber

end

/-! The mapping in between -/

section
variable {proxy : ClashProxyDocument} {key key' : Str}

lemma get_insertValue_ne (h : key' ≠ key) (value : YamlValue) :
    (proxy.insertValue key value).value.get key'=proxy.value.get key' := Mapping.get_insert_ne h value proxy.value

lemma get_insertValue_self (value : YamlValue) : (proxy.insertValue key value).value.get key=some value :=
  Mapping.get_insert_self key value proxy.value

lemma get_insertSome_self (value : Option Str) :
    (proxy.insertSome key value).value.get key=(value.map .string).or (proxy.value.get key) := by
  cases value with
  | none => rfl
  | some value => exact get_insertValue_self _

lemma get_insertSome_ne (h : key' ≠ key) (value : Option Str) :
    (proxy.insertSome key value).value.get key'=proxy.value.get key' := by
  cases value with
  | none => rfl
  | some value => exact get_insertValue_ne h _

lemma get_insertIf_ne (h : key' ≠ key) {p : Prop} [Decidable p] (value : Bool) :
    (if p then proxy.insertBool key value else proxy).value.get key'=proxy.value.get key' := by
  split_ifs
  · exact get_insertValue_ne h _
  · rfl

lemma get_insertIf_self {p : Prop} [Decidable p] (value : Bool) :
    (if p then proxy.insertBool key value else proxy).value.get key=
      if p then some (.bool value) else proxy.value.get key := by
  split_ifs
  · exact get_insertValue_self _
  · rfl

lemma get_insertAlpn_ne (h : key ≠ "alpn".toList) (alpn : Option Str) :
    (insertAlpn alpn proxy).value.get key=proxy.value.get key := by
  unfold insertAlpn
  split
  · exact get_insertValue_ne h _
  · rfl

/-- The list stands in the mapping as a sequence, which no reader of strings takes. -/
lemma get_insertAlpn_self (h : proxy.value.get "alpn".toList=none) (alpn : Option Str) :
    ((insertAlpn alpn proxy).value.get "alpn".toList).bind valueToString=none := by
  unfold insertAlpn
  split
  · rw [insertStrings,get_insertValue_self]
    rfl
  · rw [h]
    rfl

end

/-- What the mapping of a link holds under the names that `build_hysteria` reads. -/
structure HysteriaMapping (url : Url) (server : Str) (port : UInt16) (auth : Str) (mapping : Mapping) : Prop where
  kind : mapping.get "type".toList=some (.string "hysteria".toList)
  server : mapping.get "server".toList=some (.string server)
  port : mapping.get "port".toList=some (.number (.posInt port.toNat))
  auth : mapping.get "auth".toList=some (.string auth)
  sni : mapping.get "sni".toList=(linkSni url).map .string
  servername : mapping.get "servername".toList=(linkSni url).map .string
  alpn : (mapping.get "alpn".toList).bind valueToString=none
  skipCertVerify : mapping.get "skip-cert-verify".toList=
    if (queryParam url "insecure".toList).any isOn then some (.bool true) else none
  allowInsecure : mapping.get "allow-insecure".toList=none
  up : mapping.get "up".toList=(nonEmpty (queryParam url "up".toList)).map .string
  upMbps : mapping.get "up-mbps".toList=((nonEmpty (queryParam url "up_mbps".toList)).or
    (nonEmpty (queryParam url "upmbps".toList))).map .string
  upOther : mapping.get "upmbps".toList=none ∧ mapping.get "up_mbps".toList=none
  down : mapping.get "down".toList=(nonEmpty (queryParam url "down".toList)).map .string
  downMbps : mapping.get "down-mbps".toList=((nonEmpty (queryParam url "down_mbps".toList)).or
    (nonEmpty (queryParam url "downmbps".toList))).map .string
  downOther : mapping.get "downmbps".toList=none ∧ mapping.get "down_mbps".toList=none

lemma applyHysteriaCommonQuery_eq (proxy : ClashProxyDocument) (url : Url) : applyHysteriaCommonQuery proxy url=
    hysteriaQueryKeys.foldl (fun proxy keys =>
        proxy.insertSome keys.2.toList (nonEmpty (queryParam url keys.1.toList)))
      (insertAlpn (nonEmpty (queryParam url "alpn".toList))
        (((if (queryParam url "insecure".toList).any isOn then proxy.insertBool "skip-cert-verify".toList true
          else proxy).insertSome "sni".toList (linkSni url)).insertSome "servername".toList (linkSni url))) := by
  unfold applyHysteriaCommonQuery
  dsimp only
  rw [← linkSni]
  cases linkSni url <;> rfl

/-- The mapping before the query is read -/
def hysteriaBase (name server : Str) (port : UInt16) (auth : Str) : ClashProxyDocument :=
  (ClashProxyDocument.new name "hysteria".toList server port).insertString "auth".toList auth

lemma hysteriaBase_none {key : Str} (h : key ∉ ["name".toList,"type".toList,"server".toList,"port".toList,"auth".toList])
    (name server : Str) (port : UInt16) (auth : Str) : (hysteriaBase name server port auth).value.get key=none := by
  simp only [List.mem_cons,List.not_mem_nil,or_false,not_or] at h
  obtain ⟨h1,h2,h3,h4,h5⟩ := h
  simp only [hysteriaBase,ClashProxyDocument.new,insertString,insertU16]
  rw [get_insertValue_ne h5,get_insertValue_ne h4,get_insertValue_ne h3,get_insertValue_ne h2,get_insertValue_ne h1]
  rfl

lemma hysteriaMapping (name server : Str) (port : UInt16) (auth : Str) (url : Url) :
    HysteriaMapping url server port auth (insertSome "protocol".toList (nonEmpty (queryParam url "protocol".toList))
      (applyHysteriaCommonQuery (hysteriaBase name server port auth) url)).value := by
  rw [applyHysteriaCommonQuery_eq]
  simp only [hysteriaQueryKeys,List.foldl_cons,List.foldl_nil]
  constructor
  case alpn =>
    simp (disch := decide) only [get_insertSome_ne]
    refine get_insertAlpn_self ?_ _
    simp (disch := decide) only [get_insertSome_ne,get_insertIf_ne,hysteriaBase_none]
  all_goals
    simp (disch := decide) only [get_insertSome_self,get_insertSome_ne,get_insertAlpn_ne,get_insertIf_ne,
      get_insertIf_self,hysteriaBase_none,Option.or_none,Option.map_or,and_self]
  case kind | server | port | auth =>
    simp (disch := decide) only [hysteriaBase,ClashProxyDocument.new,insertString,insertU16,get_insertValue_ne,
      get_insertValue_self]

section
variable {env : LinkExternals} {url : Url} {config : MihomoProxyConfig}

lemma parseHysteriaUrl_ok (h : parseHysteriaUrl env url = .ok config) : ∃ server port auth mapping,
    url.hostStr=some server ∧ url.port=some port ∧ linkAuth env url=some auth ∧
      config.value = .mapping mapping ∧ HysteriaMapping url server port auth mapping := by
  obtain ⟨server,hserver,h⟩ := bind_eq_ok.mp h
  obtain ⟨port,hport,h⟩ := bind_eq_ok.mp h
  obtain ⟨auth,hauth,h⟩ := bind_eq_ok.mp h
  cases h
  refine ⟨server,port,auth,_,?_,?_,?_,rfl,?_⟩
  · unfold requiredHost at hserver
    split at hserver <;> cases hserver
    assumption
  · unfold Link.requiredPort at hport
    split at hport <;> cases hport
    assumption
  · unfold required at hauth
    split at hauth <;> cases hauth
    next hauth => exact (Option.filter_eq_some_iff.mp hauth).1
  exact hysteriaMapping _ server port auth url

lemma HysteriaMapping.stringField_sni {server auth : Str} {port : UInt16} {mapping : Mapping}
    (h : HysteriaMapping url server port auth mapping) :
    stringField mapping ["sni".toList,"servername".toList]=linkSni url := by
  rw [stringField,findField,List.findSome?_cons,List.findSome?_cons,h.sni,h.servername]
  cases linkSni url <;> rfl

lemma HysteriaMapping.skipCertVerify_eq {server auth : Str} {port : UInt16} {mapping : Mapping}
    (h : HysteriaMapping url server port auth mapping) :
    Mihomo.skipCertVerify mapping=(queryParam url "insecure".toList).any isOn := by
  rw [Mihomo.skipCertVerify,boolField,findField,List.findSome?_cons,List.findSome?_cons,h.skipCertVerify,
    h.allowInsecure]
  cases (queryParam url "insecure".toList).any isOn <;> rfl

lemma HysteriaMapping.hysteriaAlpn_eq {server auth : Str} {port : UInt16} {mapping : Mapping}
    (h : HysteriaMapping url server port auth mapping) : hysteriaAlpn mapping="hysteria".toList := by
  rw [hysteriaAlpn,stringField,findField,List.findSome?_cons,h.alpn]
  rfl

/-- The options of a link: only the list of protocols is not among them. -/
lemma buildMeowNode_hysteria {menv : MeowExternals} {node : MeowProxyNode} {adapter : MeowAdapter}
    {server auth : Str} {port : UInt16} {mapping : Mapping} (hvalue : config.value = .mapping mapping)
    (h : HysteriaMapping url server port auth mapping) (hbuild : buildMeowNode menv config = .ok (node,adapter)) :
    ∃ options, adapter = .hysteria options ∧ options.server=server ∧ options.port=port ∧
      options.auth=utf8 auth ∧ options.sni=linkSni url ∧ options.alpn="hysteria".toList ∧
      options.skipCertVerify=(queryParam url "insecure".toList).any isOn ∧
      options.upBps=upBps mapping ∧ options.downBps=downBps mapping := by
  have hstring : ∀ {key value : Str}, mapping.get key=some (.string value) → ∀ keys,
      stringField mapping (key::keys)=some value := by
    intro key value hget keys
    exact findField_eq hget (show valueToString (.string value)=some value from rfl) keys
  have hbuild' : buildHysteria menv config mapping = .ok (node,adapter) := by
    rw [← hbuild,buildMeowNode,hvalue]
    dsimp only [asMapping]
    rw [hstring h.kind]
    rfl
  have hport : u16Field mapping ["port".toList]=some port := by
    have hlt := port.toNat_lt
    rw [u16Field,boundedField,findField_eq h.port (show Option.filter _ (some port.toNat)=_ from
      Option.filter_some_pos (decide_eq_true hlt)) []]
    simp
  have hserver : entryServer mapping=server := by
    rw [entryServer,hstring h.server]
    rfl
  have hentryPort : entryPort .hysteria mapping=port := by
    rw [entryPort,hport]
    rfl
  obtain ⟨_,hauth,rfl⟩ := buildHysteria_reads hbuild'
  rw [hstring h.auth] at hauth
  cases hauth
  exact ⟨_,rfl,hserver,hentryPort,rfl,h.stringField_sni,h.hysteriaAlpn_eq,h.skipCertVerify_eq,rfl,rfl⟩

/-- The adapter has what its link says exactly if the link asks for no other protocol than the default one,
and each bandwidth is given once, or the same under each name, and fits in a `u64`. -/
theorem hysteria_link_iff {menv : MeowExternals} {node : MeowProxyNode} {adapter : MeowAdapter}
    (hparse : parseHysteriaUrl env url = .ok config) (hbuild : buildMeowNode menv config = .ok (node,adapter)) :
    (∃ options, adapter = .hysteria options ∧ Carries env url options) ↔ HysteriaKept url := by
  obtain ⟨server,port,auth,mapping,hserver,hport,hauth,hvalue,hmapping⟩ := parseHysteriaUrl_ok hparse
  obtain ⟨options,rfl,rfl,rfl,hutf8,hsni,halpn,hskip,hup,hdown⟩ := buildMeowNode_hysteria hvalue hmapping hbuild
  have hupRate := hyBandwidthBps_eq hmapping.up hmapping.upMbps hmapping.upOther.1 hmapping.upOther.2
  have hdownRate := hyBandwidthBps_eq hmapping.down hmapping.downMbps hmapping.downOther.1 hmapping.downOther.2
  rw [upBps,hupRate] at hup
  rw [downBps,hdownRate] at hdown
  have hupKept : (∀ text n, queryParam url "upmbps".toList=some text → IsNumber text n → options.upBps=megabits n) ↔
      RateKept (queryParam url "up".toList) (queryParam url "up_mbps".toList) (queryParam url "upmbps".toList) := by
    rw [hup]
    exact rate_iff "up".toList "up-mbps".toList (by decide) (by decide)
  have hdownKept : (∀ text n, queryParam url "downmbps".toList=some text → IsNumber text n →
      options.downBps=megabits n) ↔ RateKept (queryParam url "down".toList) (queryParam url "down_mbps".toList)
        (queryParam url "downmbps".toList) := by
    rw [hdown]
    exact rate_iff "down".toList "down-mbps".toList (by decide) (by decide)
  constructor
  · rintro ⟨_,heq,hcarries⟩
    cases heq
    exact ⟨hcarries.alpn.symm.trans halpn,hupKept.mp hcarries.up,hdownKept.mp hcarries.down⟩
  · intro hkept
    exact ⟨options,rfl,hserver,hport,⟨auth,hauth,hutf8⟩,hsni,halpn.trans hkept.alpn.symm,hskip,
      hupKept.mpr hkept.up,hdownKept.mpr hkept.down⟩

end

/-! `alpn=h3`, and a link that is kept -/

/-- `hysteria://example.com:443?auth=secret&alpn=…&upmbps=100` -/
def hysteriaUrl (alpn : String) : Url where
  scheme := "hysteria".toList
  username := []
  password := none
  hostStr := some "example.com".toList
  port := some 443
  portOrKnownDefault := some 443
  path := []
  query := some ("auth=secret&alpn=".toList++alpn.toList++"&upmbps=100".toList)
  queryPairs := [("auth".toList,"secret".toList),("alpn".toList,alpn.toList),("upmbps".toList,"100".toList)]
  fragment := none
  asStr := "hysteria://example.com:443?auth=secret&alpn=".toList++alpn.toList++"&upmbps=100".toList

theorem hysteria_link_default : ∃ config node adapter,
    parseHysteriaUrl sampleLinkExternals (hysteriaUrl "hysteria") = .ok config ∧
      buildMeowNode plainMeowExternals config = .ok (node,adapter) ∧
      ((∃ options, adapter = .hysteria options ∧ Carries sampleLinkExternals (hysteriaUrl "hysteria") options) ↔
        HysteriaKept (hysteriaUrl "hysteria")) :=
  ⟨_,_,_,rfl,rfl,hysteria_link_iff rfl (show buildMeowNode plainMeowExternals _ = _ from rfl)⟩

theorem alpn_of_link_lost : ∃ config node options,
    parseHysteriaUrl sampleLinkExternals (hysteriaUrl "h3") = .ok config ∧
      buildMeowNode plainMeowExternals config = .ok (node,.hysteria options) ∧
      linkAlpn (hysteriaUrl "h3")=["h3".toList] ∧ options.alpn="hysteria".toList ∧
      ¬Carries sampleLinkExternals (hysteriaUrl "h3") options := by
  refine ⟨_,_,_,rfl,rfl,rfl,rfl,fun h => ?_⟩
  have halpn : "hysteria".toList="h3".toList := h.alpn
  exact absurd halpn (by decide)

end RotatorProxy.Mihomo
