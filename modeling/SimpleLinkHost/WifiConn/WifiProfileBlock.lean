import SimpleLinkHost.Core.MemoryBlock
import SimpleLinkHost.WifiConn.WifiContext

/-!
# The block of a profile that is kept

`SlWifiConn_addProfile` keeps a profile in one block: a `profile_t`, and behind it the SSID,
the key and the names of the user, one after the other.  Where each of them is, the macros
compute from the lengths that the structure has stored by then; of the length of
the SSID it stores eight bits.
-/

namespace SimpleLinkHost.WifiProfileBlock

open MemoryBlock WifiContext

section Params

/-- `SlWlanSecParams_t`, with the bytes of its key. -/
structure SecParams where
  type : Byte
  key : List Byte
  keyFits : key.length < 2 ^ 8

/-- `SlWlanSecParamsExt_t`, with the bytes of its names. -/
structure SecParamsExt where
  user : List Byte
  anonUser : List Byte
  userFits : user.length < 2 ^ 8
  anonUserFits : anonUser.length < 2 ^ 8

/-- The parameters of `SlWifiConn_addProfile` that describe the profile. -/
structure ProfileParams where
  ssid : List Byte
  ssidFits : ssid.length < 2 ^ 16
  macAddr : Option (List Byte)
  secParams : Option SecParams
  secExtParams : Option SecParamsExt
  prio : BitVec 32

def SecParams.keyLen (params : SecParams) : Byte := BitVec.ofNat 8 params.key.length

def SecParamsExt.userLen (params : SecParamsExt) : Byte := BitVec.ofNat 8 params.user.length

def SecParamsExt.anonUserLen (params : SecParamsExt) : Byte :=
  BitVec.ofNat 8 params.anonUser.length

def ProfileParams.ssidLen (params : ProfileParams) : BitVec 16 := BitVec.ofNat 16 params.ssid.length

end Params

section Block

/-- `profile_t`.  A pointer into the block is the offset behind the structure; a pointer
elsewhere is none. -/
structure ProfileHeader where
  ssidLen : Byte
  bSetBssid : Byte
  bssid : List Byte
  type : Byte
  key : Option ℕ
  keyLen : Byte
  user : Option ℕ
  userLen : Byte
  anonUser : Option ℕ
  anonUserLen : Byte
  priority : Byte

/-- A block with a `profile_t` and the bytes behind it. -/
structure ProfileBlock where
  header : ProfileHeader
  data : List Byte

/-- `PROFILE_SSID` -/
def profileSsid (_ : ProfileHeader) : ℕ := 0

/-- `PROFILE_PASSWORD` -/
def profilePassword (pProf : ProfileHeader) : ℕ := profileSsid pProf + pProf.ssidLen.toNat

/-- `PROFILE_USER` -/
def profileUser (pProf : ProfileHeader) : ℕ := profilePassword pProf + pProf.keyLen.toNat

/-- `PROFILE_ANON_USER` -/
def profileAnonUser (pProf : ProfileHeader) : ℕ := profileUser pProf + pProf.userLen.toNat

end Block

section Packing

/-- A `memcpy` leaves the block, or an assertion fails. -/
inductive PackFault
  | outside
  | assertFailed
deriving DecidableEq

/-- What `malloc` hands out: whatever the memory held. -/
structure Memory where
  header : ProfileHeader
  cells : ℕ → Byte

/-- `totalLen`, without the structure. -/
def dataLen (params : ProfileParams) : ℕ :=
  params.ssidLen.toNat +
    match params.secParams with
    | none => 0
    | some secParams =>
        secParams.keyLen.toNat +
          match params.secExtParams with
          | none => 0
          | some secExtParams => secExtParams.userLen.toNat + secExtParams.anonUserLen.toNat

def malloc (memory : Memory) (len : ℕ) : ProfileBlock :=
  { header := memory.header, data := (List.range len).map memory.cells }

/-- `memcpy` to an offset behind the structure. -/
def copyTo (pProf : ProfileBlock) (offset : ℕ) (bytes : List Byte) :
    Except PackFault ProfileBlock :=
  if offset + bytes.length ≤ pProf.data.length then
    .ok { pProf with data := write pProf.data offset bytes }
  else .error .outside

/-- What is stored of the parameters in front of the strings. -/
def headerOf (params : ProfileParams) (header : ProfileHeader) : ProfileHeader :=
  { header with
    priority := params.prio.setWidth 8
    ssidLen := params.ssidLen.setWidth 8
    bSetBssid := if params.macAddr.isSome then 1 else 0
    bssid := params.macAddr.getD header.bssid }

def ProfileBlock.update (pProf : ProfileBlock) (change : ProfileHeader → ProfileHeader) :
    ProfileBlock :=
  { pProf with header := change pProf.header }

/-- The copy of the extended security parameters. -/
def packExt (wpaEnt : Byte) (secParams : SecParams) (secExtParams : SecParamsExt)
    (pProf : ProfileBlock) : Except PackFault ProfileBlock := do
  if secParams.type ≠ wpaEnt then throw .assertFailed
  let pProf := pProf.update fun header =>
    { header with
      user := none
      userLen := secExtParams.userLen
      anonUser := none
      anonUserLen := secExtParams.anonUserLen }
  let pProf ← copyTo pProf (profileUser pProf.header) secExtParams.user
  let pProf := pProf.update fun header => { header with user := some (profileUser header) }
  let pProf ← copyTo pProf (profileAnonUser pProf.header) secExtParams.anonUser
  return pProf.update fun header => { header with anonUser := some (profileAnonUser header) }

/-- The copy of the security parameters. -/
def packSec (wpaEnt : Byte) (secParams : SecParams) (secExtParams : Option SecParamsExt)
    (pProf : ProfileBlock) : Except PackFault ProfileBlock := do
  let pProf := pProf.update fun header =>
    { header with type := secParams.type, key := none, keyLen := secParams.keyLen }
  let pProf ← copyTo pProf (profilePassword pProf.header) secParams.key
  let pProf := pProf.update fun header => { header with key := some (profilePassword header) }
  match secExtParams with
  | none => return pProf
  | some secExtParams => packExt wpaEnt secParams secExtParams pProf

/-- The part of `SlWifiConn_addProfile` that fills the block it has allocated. -/
def packProfile (wpaEnt secTypeOpen : Byte) (memory : Memory) (params : ProfileParams) :
    Except PackFault ProfileBlock := do
  let pProf := (malloc memory (dataLen params)).update (headerOf params)
  let pProf ← copyTo pProf (profileSsid pProf.header) params.ssid
  match params.secParams with
  | none => return pProf.update fun header => { header with type := secTypeOpen, keyLen := 0 }
  | some secParams => packSec wpaEnt secParams params.secExtParams pProf

end Packing

section Reading

/-- The regions that the macros and the stored lengths give. -/
def ssidRegion (pProf : ProfileHeader) : Region := ⟨profileSsid pProf, pProf.ssidLen.toNat⟩

def passwordRegion (pProf : ProfileHeader) : Region := ⟨profilePassword pProf, pProf.keyLen.toNat⟩

def userRegion (pProf : ProfileHeader) : Region := ⟨profileUser pProf, pProf.userLen.toNat⟩

def anonUserRegion (pProf : ProfileHeader) : Region :=
  ⟨profileAnonUser pProf, pProf.anonUserLen.toNat⟩

/-- The key that was passed in. -/
def ProfileParams.key (params : ProfileParams) : List Byte :=
  (params.secParams.map (·.key)).getD []

/-- What is read back is what was passed in.  Without extended parameters there are no names
to read. -/
structure ReadsBack (params : ProfileParams) (pProf : ProfileBlock) : Prop where
  ssid : (ssidRegion pProf.header).read pProf.data = params.ssid
  key : (passwordRegion pProf.header).read pProf.data = params.key
  user : ∀ secExtParams ∈ params.secExtParams,
    (userRegion pProf.header).read pProf.data = secExtParams.user
  anonUser : ∀ secExtParams ∈ params.secExtParams,
    (anonUserRegion pProf.header).read pProf.data = secExtParams.anonUser

/-- The regions with something to read. -/
def regions (params : ProfileParams) (pProf : ProfileHeader) : List Region :=
  if params.secExtParams.isSome then
    [ssidRegion pProf, passwordRegion pProf, userRegion pProf, anonUserRegion pProf]
  else [ssidRegion pProf, passwordRegion pProf]

/-- The regions lie in the block, and do not overlap. -/
def RegionsApart (params : ProfileParams) (pProf : ProfileBlock) : Prop :=
  (∀ region ∈ regions params pProf.header, region.Inside pProf.data.length) ∧
    (regions params pProf.header).Pairwise Region.Apart

/-- The profile is stored, and read back. -/
def Kept (wpaEnt secTypeOpen : Byte) (memory : Memory) (params : ProfileParams) : Prop :=
  ∃ pProf, packProfile wpaEnt secTypeOpen memory params = .ok pProf ∧
    ReadsBack params pProf ∧ RegionsApart params pProf

/-- The security type is WPA_ENT whenever extended parameters are given. -/
def ExtForEnt (wpaEnt : Byte) (params : ProfileParams) : Prop :=
  params.secExtParams.isSome → ∃ secParams ∈ params.secParams, secParams.type = wpaEnt

end Reading

section Packed

variable {wpaEnt secTypeOpen : Byte} {memory : Memory} {params : ProfileParams}
variable {pProf : ProfileBlock} {secParams : SecParams} {secExtParams : SecParamsExt}

def namesOf : Option SecParamsExt → List (List Byte)
  | none => []
  | some secExtParams => [secExtParams.user, secExtParams.anonUser]

theorem toNat_ssidLen (params : ProfileParams) : params.ssidLen.toNat = params.ssid.length := by
  rw [ProfileParams.ssidLen, BitVec.toNat_ofNat, Nat.mod_eq_of_lt params.ssidFits]

@[simp]
theorem toNat_keyLen (params : SecParams) : params.keyLen.toNat = params.key.length := by
  rw [SecParams.keyLen, BitVec.toNat_ofNat, Nat.mod_eq_of_lt params.keyFits]

@[simp]
theorem toNat_userLen (params : SecParamsExt) : params.userLen.toNat = params.user.length := by
  rw [SecParamsExt.userLen, BitVec.toNat_ofNat, Nat.mod_eq_of_lt params.userFits]

@[simp]
theorem toNat_anonUserLen (params : SecParamsExt) :
    params.anonUserLen.toNat = params.anonUser.length := by
  rw [SecParamsExt.anonUserLen, BitVec.toNat_ofNat, Nat.mod_eq_of_lt params.anonUserFits]

/-- Of the length of the SSID, eight bits are stored. -/
theorem toNat_storedLen (params : ProfileParams) (header : ProfileHeader) :
    (headerOf params header).ssidLen.toNat = params.ssid.length % 256 := by
  rw [headerOf, BitVec.toNat_setWidth, toNat_ssidLen]

theorem copyTo_bind {offset : ℕ} {bytes : List Byte}
    {rest : ProfileBlock → Except PackFault ProfileBlock}
    (hinside : offset + bytes.length ≤ pProf.data.length) :
    (copyTo pProf offset bytes >>= rest) =
      rest { pProf with data := write pProf.data offset bytes } := by
  rw [copyTo, if_pos hinside]
  rfl

/-- The header behind the copy of the extended security parameters. -/
def extHeader (secExtParams : SecParamsExt) (header : ProfileHeader) : ProfileHeader :=
  { header with
    user := some (profileUser header)
    userLen := secExtParams.userLen
    anonUser := some (profileUser header + secExtParams.user.length)
    anonUserLen := secExtParams.anonUserLen }

/-- The header behind the copy of the security parameters. -/
def secHeader (secParams : SecParams) (secExtParams : Option SecParamsExt)
    (header : ProfileHeader) : ProfileHeader :=
  let header :=
    { header with
      type := secParams.type
      key := some (profilePassword header)
      keyLen := secParams.keyLen }
  match secExtParams with
  | none => header
  | some secExtParams => extHeader secExtParams header

theorem packExt_eq (hent : secParams.type = wpaEnt)
    (hinside : profileUser pProf.header + secExtParams.user.length + secExtParams.anonUser.length ≤
      pProf.data.length) :
    packExt wpaEnt secParams secExtParams pProf =
      .ok { header := extHeader secExtParams pProf.header,
            data := writeAll pProf.data (profileUser pProf.header)
              [secExtParams.user, secExtParams.anonUser] } := by
  have huser : profileUser pProf.header + secExtParams.user.length ≤ pProf.data.length := by omega
  have hanonUser : profileUser pProf.header + secExtParams.user.length +
      secExtParams.anonUser.length ≤
        (write pProf.data (profileUser pProf.header) secExtParams.user).length := by
    rwa [length_write huser]
  have hlen : profileUser pProf.header + secExtParams.userLen.toNat =
      profileUser pProf.header + secExtParams.user.length := by
    rw [toNat_userLen]
  rw [← hlen] at hanonUser
  rw [packExt, if_neg (not_not.mpr hent), copyTo_bind, copyTo_bind hanonUser]
  · rw [writeAll, writeAll, writeAll, extHeader, ← hlen]
    rfl
  · exact huser

theorem packSec_eq (pProf : ProfileBlock) (secParams : SecParams)
    (secExtParams : Option SecParamsExt)
    (hent : ∀ ext ∈ secExtParams, secParams.type = wpaEnt)
    (hinside : profilePassword pProf.header + secParams.key.length +
      (namesOf secExtParams).flatten.length ≤ pProf.data.length) :
    packSec wpaEnt secParams secExtParams pProf =
      .ok { header := secHeader secParams secExtParams pProf.header,
            data := writeAll pProf.data (profilePassword pProf.header)
              (secParams.key :: namesOf secExtParams) } := by
  have hkey : profilePassword pProf.header + secParams.key.length ≤ pProf.data.length := by omega
  have hlen : profilePassword pProf.header + secParams.key.length =
      profilePassword pProf.header + secParams.keyLen.toNat := by
    rw [toNat_keyLen]
  have hbehind : writeAll pProf.data (profilePassword pProf.header)
      (secParams.key :: namesOf secExtParams) =
        writeAll (write pProf.data (profilePassword pProf.header) secParams.key)
          (profilePassword pProf.header + secParams.keyLen.toNat) (namesOf secExtParams) := by
    rw [writeAll, hlen]
  rw [packSec, hbehind, copyTo_bind]
  · cases secExtParams with
    | none => rfl
    | some secExtParams =>
        apply (packExt_eq (hent secExtParams rfl) _).trans
        · rfl
        · have hwrite := length_write hkey
          simp only [namesOf, List.flatten_cons, List.flatten_nil, List.append_nil,
            List.length_append] at hinside
          change profilePassword pProf.header + secParams.keyLen.toNat + _ + _ ≤
            (write pProf.data (profilePassword pProf.header) secParams.key).length
          omega
  · exact hkey

/-- The header of a block that is filled. -/
def packedHeader (secTypeOpen : Byte) (params : ProfileParams) (header : ProfileHeader) :
    ProfileHeader :=
  let header := headerOf params header
  match params.secParams with
  | none => { header with type := secTypeOpen, keyLen := 0 }
  | some secParams => secHeader secParams params.secExtParams header

/-- The bytes behind the structure before they are filled. -/
def freshData (memory : Memory) (params : ProfileParams) : List Byte :=
  (List.range (dataLen params)).map memory.cells

/-- Without security parameters there are no names. -/
theorem ExtForEnt.eq_none (hext : ExtForEnt wpaEnt params) (hsec : params.secParams = none) :
    params.secExtParams = none := by
  by_contra hsome
  obtain ⟨secParams, hmem, -⟩ := hext (Option.isSome_iff_ne_none.mpr hsome)
  rw [hsec] at hmem
  cases hmem

theorem dataLen_eq (hext : ExtForEnt wpaEnt params) :
    dataLen params =
      params.ssid.length + params.key.length + (namesOf params.secExtParams).flatten.length := by
  rw [dataLen, toNat_ssidLen, ProfileParams.key]
  cases hsec : params.secParams with
  | none =>
      rw [hext.eq_none hsec]
      rfl
  | some secParams =>
      cases params.secExtParams with
      | none => simp [namesOf]
      | some secExtParams => simp [namesOf, Nat.add_assoc]

theorem length_freshData (memory : Memory) (hext : ExtForEnt wpaEnt params) :
    (freshData memory params).length =
      params.ssid.length + params.key.length + (namesOf params.secExtParams).flatten.length := by
  rw [freshData, List.length_map, List.length_range, dataLen_eq hext]

/-- For an SSID of any length, no copy leaves the block. -/
theorem packProfile_eq (hext : ExtForEnt wpaEnt params) :
    packProfile wpaEnt secTypeOpen memory params =
      .ok { header := packedHeader secTypeOpen params memory.header,
            data := writeAll (write (freshData memory params) 0 params.ssid)
              (params.ssid.length % 256) (params.key :: namesOf params.secExtParams) } := by
  have hdata := length_freshData memory hext
  have hssid : 0 + params.ssid.length ≤ (freshData memory params).length := by omega
  have hwrite : (write (freshData memory params) 0 params.ssid).length =
      (freshData memory params).length := length_write hssid
  have hpassword : profilePassword (headerOf params memory.header) = params.ssid.length % 256 := by
    rw [profilePassword, profileSsid, toNat_storedLen, Nat.zero_add]
  have hshorter : params.ssid.length % 256 ≤ params.ssid.length := Nat.mod_le _ _
  rw [packProfile, copyTo_bind (by exact hssid), packedHeader, ProfileParams.key]
  rw [ProfileParams.key] at hdata
  cases hsec : params.secParams with
  | none =>
      have hnames := hext.eq_none hsec
      have hunchanged : writeAll (write (freshData memory params) 0 params.ssid)
          (params.ssid.length % 256) [[]] = write (freshData memory params) 0 params.ssid :=
        write_nil _ _
      rw [hnames]
      simp only [Option.map_none, Option.getD_none, namesOf]
      rw [hunchanged]
      rfl
  | some secParams =>
      simp only [hsec, Option.map_some, Option.getD_some] at hdata
      apply (packSec_eq _ secParams params.secExtParams _ _).trans
      · rw [← hpassword]
        rfl
      · intro secExtParams hmem
        obtain ⟨secParams', hmem', htype⟩ := hext (Option.isSome_of_mem hmem)
        rw [hsec, Option.mem_some_iff] at hmem'
        rwa [hmem']
      · change profilePassword (headerOf params memory.header) + _ + _ ≤
          (write (freshData memory params) 0 params.ssid).length
        omega

/-- The strings that were passed in. -/
def strings (params : ProfileParams) : List (List Byte) :=
  params.ssid :: params.key :: namesOf params.secExtParams

/-- The regions follow one another, the first as long as eight bits tell. -/
theorem regions_packed (hext : ExtForEnt wpaEnt params) (header : ProfileHeader) :
    regions params (packedHeader secTypeOpen params header) =
      packed 0 (params.ssid.length % 256 :: params.key.length ::
        (namesOf params.secExtParams).map List.length) := by
  have hlen := toNat_storedLen params header
  rw [packedHeader, ProfileParams.key]
  cases hsec : params.secParams with
  | none =>
      have hnames := hext.eq_none hsec
      simp [regions, hnames, namesOf, packed, ssidRegion, passwordRegion, profilePassword,
        profileSsid, hlen]
  | some secParams =>
      cases hnames : params.secExtParams with
      | none =>
          simp [regions, hnames, namesOf, packed, ssidRegion, passwordRegion, profilePassword,
            profileSsid, secHeader, hlen]
      | some secExtParams =>
          simp [regions, hnames, namesOf, packed, ssidRegion, passwordRegion, userRegion,
            anonUserRegion, profileAnonUser, profileUser, profilePassword, profileSsid, secHeader,
            extHeader, hlen]

end Packed

section Stored

variable {wpaEnt secTypeOpen : Byte} {memory : Memory} {params : ProfileParams}

theorem regionsApart_packProfile (hext : ExtForEnt wpaEnt params) {pProf : ProfileBlock}
    (hpacked : packProfile wpaEnt secTypeOpen memory params = .ok pProf) :
    RegionsApart params pProf := by
  rw [packProfile_eq hext, Except.ok.injEq] at hpacked
  subst hpacked
  rw [RegionsApart, regions_packed hext]
  refine ⟨packed_inside ?_, packed_apart 0 _⟩
  have hshorter : params.ssid.length % 256 ≤ params.ssid.length := Nat.mod_le _ _
  have hdata := length_freshData memory hext
  have hwrite : (write (freshData memory params) 0 params.ssid).length =
      (freshData memory params).length := length_write (by omega)
  rw [length_writeAll, hwrite, hdata, List.sum_cons, List.sum_cons, ← List.length_flatten]
  · omega
  · rw [hwrite, hdata, List.flatten_cons, List.length_append]
    omega

theorem readsBack_packProfile (hext : ExtForEnt wpaEnt params) (hshort : params.ssid.length < 256)
    {pProf : ProfileBlock} (hpacked : packProfile wpaEnt secTypeOpen memory params = .ok pProf) :
    ReadsBack params pProf := by
  rw [packProfile_eq hext, Nat.mod_eq_of_lt hshort, Except.ok.injEq] at hpacked
  have hdata : pProf.data = writeAll (freshData memory params) 0 (strings params) := by
    have hfirst : writeAll (freshData memory params) 0 (strings params) =
        writeAll (write (freshData memory params) 0 params.ssid) params.ssid.length
          (params.key :: namesOf params.secExtParams) := by
      rw [strings, writeAll, Nat.zero_add]
    rw [← hpacked, hfirst]
  have hheader : pProf.header = packedHeader secTypeOpen params memory.header := by
    rw [← hpacked]
  have hfits : 0 + (strings params).flatten.length ≤ (freshData memory params).length := by
    rw [length_freshData memory hext, strings, List.flatten_cons, List.flatten_cons,
      List.length_append, List.length_append]
    omega
  have hreads : (regions params pProf.header).map (·.read pProf.data) = strings params := by
    rw [hheader, hdata, regions_packed hext, Nat.mod_eq_of_lt hshort]
    exact read_writeAll hfits
  cases hnames : params.secExtParams with
  | none =>
      simp only [regions, strings, namesOf, hnames, Option.isSome_none, Bool.false_eq_true,
        if_false, List.map_cons, List.map_nil, List.cons.injEq, and_true] at hreads
      exact ⟨hreads.1, hreads.2, by simp [hnames], by simp [hnames]⟩
  | some secExtParams =>
      simp only [regions, strings, namesOf, hnames, Option.isSome_some, if_true, List.map_cons,
        List.map_nil, List.cons.injEq, and_true] at hreads
      obtain ⟨hssid, hkey, huser, hanonUser⟩ := hreads
      exact ⟨hssid, hkey, by simpa [hnames] using huser, by simpa [hnames] using hanonUser⟩

/-- No more than the stored length is read back. -/
theorem length_lt_of_kept (hkept : Kept wpaEnt secTypeOpen memory params) :
    params.ssid.length < 256 := by
  obtain ⟨pProf, -, hreads, -⟩ := hkept
  have hread := length_read_le (ssidRegion pProf.header) pProf.data
  rw [hreads.ssid] at hread
  exact Nat.lt_of_le_of_lt hread pProf.header.ssidLen.isLt

/-- A profile is read back as it was passed in exactly if eight bits hold the length of its
SSID. -/
theorem kept_iff (wpaEnt secTypeOpen : Byte) (memory : Memory) (params : ProfileParams)
    (hext : ExtForEnt wpaEnt params) :
    Kept wpaEnt secTypeOpen memory params ↔ params.ssid.length < 256 := by
  constructor
  · exact length_lt_of_kept
  · intro hshort
    exact ⟨_, packProfile_eq hext, readsBack_packProfile hext hshort (packProfile_eq hext),
      regionsApart_packProfile hext (packProfile_eq hext)⟩

/-- A profile of WPA_ENT, by the length of its SSID. -/
def enterprise (length : ℕ) (hlength : length < 2 ^ 16) : ProfileParams where
  ssid := List.replicate length 0x41
  ssidFits := by rwa [List.length_replicate]
  macAddr := none
  secParams := some ⟨5, [1, 2, 3, 4, 5, 6, 7, 8], by decide⟩
  secExtParams := some ⟨[9, 10], [11], by decide, by decide⟩
  prio := 0

/-- What was in the memory. -/
def usedMemory : Memory where
  header := ⟨0, 0, [], 0, none, 0, none, 7, none, 7, 0⟩
  cells _ := 0xAA

/-- An SSID of 256 bytes is not read back. -/
theorem kept_broken :
    ExtForEnt 5 (enterprise 256 (by decide)) ∧
      ¬Kept 5 0 usedMemory (enterprise 256 (by decide)) := by
  refine ⟨fun _ => ⟨_, rfl, rfl⟩, ?_⟩
  intro hkept
  have hshort := length_lt_of_kept hkept
  simp only [enterprise, List.length_replicate] at hshort
  exact Nat.lt_irrefl 256 hshort

theorem kept_enterprise : Kept 5 0 usedMemory (enterprise 32 (by decide)) :=
  (kept_iff 5 0 usedMemory (enterprise 32 (by decide)) fun _ => ⟨_, rfl, rfl⟩).mpr
    (by decide)

end Stored

section Given

variable {wpaEnt secTypeOpen : Byte} {memory : Memory} {params : ProfileParams}
variable {header : ProfileHeader} {secParams : SecParams} {secExtParams : SecParamsExt}

/-- The profile that the parameters describe. -/
def profileOf (secTypeOpen : Byte) (params : ProfileParams) : Profile where
  ssid := params.ssid
  bssid := params.macAddr
  secType := (params.secParams.map (·.type)).getD secTypeOpen
  key := params.key
  user := (params.secExtParams.map (·.user)).getD []
  anonUser := (params.secExtParams.map (·.anonUser)).getD []
  priority := params.prio.setWidth 8

/-- What the NWP finds behind a pointer. -/
def readAt (pointer : Option ℕ) (len : Byte) (data : List Byte) : List Byte :=
  (pointer.map fun offset => Region.read ⟨offset, len.toNat⟩ data).getD []

def readBssid (header : ProfileHeader) : Option (List Byte) :=
  if header.bSetBssid ≠ 0 then some header.bssid else none

/-- What `NonPersistentProfile_process` and `DeferredEvent_process` give to the NWP. -/
def readProfile (wpaEnt : Byte) (pProf : ProfileBlock) : Profile where
  ssid := (ssidRegion pProf.header).read pProf.data
  bssid := readBssid pProf.header
  secType := pProf.header.type
  key := readAt pProf.header.key pProf.header.keyLen pProf.data
  user :=
    if pProf.header.type = wpaEnt then
      readAt pProf.header.user pProf.header.userLen pProf.data
    else []
  anonUser :=
    if pProf.header.type = wpaEnt then
      readAt pProf.header.anonUser pProf.header.anonUserLen pProf.data
    else []
  priority := pProf.header.priority

theorem readBssid_packedHeader :
    readBssid (packedHeader secTypeOpen params header) = params.macAddr := by
  have hbssid : readBssid (headerOf params header) = params.macAddr := by
    cases hmac : params.macAddr <;> simp [readBssid, headerOf, hmac]
  rw [packedHeader, ← hbssid]
  cases params.secParams <;> cases params.secExtParams <;> rfl

theorem priority_packedHeader :
    (packedHeader secTypeOpen params header).priority = params.prio.setWidth 8 := by
  rw [packedHeader]
  cases params.secParams <;> cases params.secExtParams <;> rfl

theorem type_packedHeader :
    (packedHeader secTypeOpen params header).type =
      (params.secParams.map (·.type)).getD secTypeOpen := by
  rw [packedHeader]
  cases params.secParams <;> cases params.secExtParams <;> rfl

/-- The pointer to the key is what the macro computes, if there is a key. -/
theorem readAt_key (data : List Byte) :
    readAt (packedHeader secTypeOpen params header).key
        (packedHeader secTypeOpen params header).keyLen data =
      (passwordRegion (packedHeader secTypeOpen params header)).read data := by
  rw [packedHeader]
  cases params.secParams with
  | none =>
      simp only
      cases (headerOf params header).key <;> rfl
  | some secParams => cases params.secExtParams <;> rfl

/-- The pointers to the names are what the macros compute. -/
theorem names_packedHeader (hsec : params.secParams = some secParams)
    (hnames : params.secExtParams = some secExtParams) :
    (packedHeader secTypeOpen params header).user =
        some (profileUser (packedHeader secTypeOpen params header)) ∧
      (packedHeader secTypeOpen params header).anonUser =
        some (profileAnonUser (packedHeader secTypeOpen params header)) := by
  rw [packedHeader, hsec, hnames]
  simp [secHeader, extHeader, profileAnonUser, profileUser, profilePassword, profileSsid]

/-- The NWP is given the profile that the parameters describe, if a WPA_ENT profile has names. -/
theorem readProfile_packProfile (hext : ExtForEnt wpaEnt params)
    (hopen : secTypeOpen ≠ wpaEnt)
    (hnames : ∀ secParams ∈ params.secParams, secParams.type = wpaEnt → params.secExtParams.isSome)
    (hshort : params.ssid.length < 256) {pProf : ProfileBlock}
    (hpacked : packProfile wpaEnt secTypeOpen memory params = .ok pProf) :
    readProfile wpaEnt pProf = profileOf secTypeOpen params := by
  have hreads := readsBack_packProfile hext hshort hpacked
  have hheader : pProf.header = packedHeader secTypeOpen params memory.header := by
    rw [packProfile_eq hext, Except.ok.injEq] at hpacked
    rw [← hpacked]
  have hkey : readAt pProf.header.key pProf.header.keyLen pProf.data = params.key := by
    rw [← hreads.key, hheader]
    exact readAt_key pProf.data
  have hbssid : readBssid pProf.header = params.macAddr := by
    rw [hheader, readBssid_packedHeader]
  have hprio : pProf.header.priority = params.prio.setWidth 8 := by
    rw [hheader, priority_packedHeader]
  have htype : pProf.header.type = (params.secParams.map (·.type)).getD secTypeOpen := by
    rw [hheader, type_packedHeader]
  rw [readProfile, profileOf, hreads.ssid, hkey, hbssid, hprio]
  cases hsome : params.secExtParams with
  | none =>
      have hother : pProf.header.type ≠ wpaEnt := by
        rw [htype]
        cases hsec : params.secParams with
        | none => exact hopen
        | some secParams =>
            intro hent
            have hgiven := hnames secParams hsec hent
            rw [hsome] at hgiven
            cases hgiven
      rw [if_neg hother, if_neg hother, htype]
      rfl
  | some secExtParams =>
      obtain ⟨secParams, hsec, hent⟩ := hext (Option.isSome_of_mem hsome)
      have hsame : pProf.header.type = wpaEnt := by
        rw [htype, hsec]
        exact hent
      have hpointers : pProf.header.user = some (profileUser pProf.header) ∧
          pProf.header.anonUser = some (profileAnonUser pProf.header) := by
        rw [hheader]
        exact names_packedHeader hsec hsome
      have huser : readAt pProf.header.user pProf.header.userLen pProf.data =
          secExtParams.user := by
        rw [hpointers.1]
        exact hreads.user secExtParams hsome
      have hanonUser : readAt pProf.header.anonUser pProf.header.anonUserLen pProf.data =
          secExtParams.anonUser := by
        rw [hpointers.2]
        exact hreads.anonUser secExtParams hsome
      rw [if_pos hsame, if_pos hsame, htype, huser, hanonUser]
      rfl

end Given

end SimpleLinkHost.WifiProfileBlock
