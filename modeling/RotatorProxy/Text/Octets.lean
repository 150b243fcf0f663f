import RotatorProxy.Text.IpAddr

/-! Numbers and addresses as the bytes of a binary format. -/
namespace RotatorProxy.Text

/-- `u16::to_be_bytes` -/
def toBeBytes (n : UInt16) : Bytes := [UInt8.ofNat (n.toNat/256),UInt8.ofNat (n.toNat%256)]

/-- `u16::from_be_bytes` -/
def fromBeBytes (hi lo : UInt8) : UInt16 := UInt16.ofNat (hi.toNat*256+lo.toNat)

/-- `Ipv6Addr::from` of sixteen bytes -/
def Ipv6Addr.ofOctets (octet : Fin 16 → UInt8) : Ipv6Addr :=
  ⟨List.ofFn fun i : Fin 8 => fromBeBytes (octet ⟨2*i,by omega⟩) (octet ⟨2*i+1,by omega⟩),List.length_ofFn⟩

theorem fromBeBytes_toBeBytes (n : UInt16) :
    fromBeBytes (UInt8.ofNat (n.toNat/256)) (UInt8.ofNat (n.toNat%256)) = n := by
  have hlt := n.toNat_lt
  apply UInt16.toNat_inj.mp
  rw [fromBeBytes,UInt16.toNat_ofNat',UInt8.toNat_ofNat',UInt8.toNat_ofNat']
  omega

/-- The bytes of an address give it back. -/
theorem Ipv6Addr.ofOctets_octets (ip : Ipv6Addr) (rest : Bytes) :
    Ipv6Addr.ofOctets (fun i => (ip.octets++rest).getD i 0) = ip := by
  obtain ⟨segments,hlen⟩ := ip
  obtain ⟨a,b,c,d,e,f,g,h,rfl⟩ : ∃ a b c d e f g h, segments=[a,b,c,d,e,f,g,h] := by
    match segments,hlen with
    | [a,b,c,d,e,f,g,h],_ => exact ⟨a,b,c,d,e,f,g,h,rfl⟩
  simp [Ipv6Addr.ofOctets,Ipv6Addr.octets,fromBeBytes_toBeBytes]

@[simp] theorem Ipv6Addr.octets_length (ip : Ipv6Addr) : ip.octets.length=16 := by
  rw [octets,List.length_flatMap]
  simp [ip.length_eq]

end RotatorProxy.Text
