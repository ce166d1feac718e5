import DeviceHal.Ipacm.EarlyClients

namespace DeviceHal.Ipacm

open Lib

abbrev ethIfaceIndexLen : Nat := 2

abbrev ipaMaxNumEthClients : Nat := 15

def ipaEthHdrName : IpaIpType → List Char
  | .v4 => ['I', 'P', 'A', 'C', 'M', '_', 'E', 'T', 'H', '_', 'v', '4']
  | .v6 => ['I', 'P', 'A', 'C', 'M', '_', 'E', 'T', 'H', '_', 'v', '6']

/-- `snprintf` of a number into the two bytes of `index`. -/
def indexText (n : Nat) : List Char := (Nat.toDigits 10 n).take (ethIfaceIndexLen - 1)

/-- `strlcat`: the length it tries to make, and the text. -/
def strlcat (dst src : List Char) (size : Nat) : Nat × List Char :=
  (dst.length + src.length, (dst ++ src).take (size - 1))

/-- The name of a header, or that it does not fit. -/
def headerName (ipaResourceNameMax ipaIfNum : Nat) (ip : IpaIpType) (headerNameCount : Nat) :
    Option (List Char) :=
  let name := (indexText ipaIfNum).take (ipaResourceNameMax - 1)
  let cat := strlcat name (ipaEthHdrName ip) ipaResourceNameMax
  if cat.1 > ipaResourceNameMax then none
  else
    let cat := strlcat cat.2 (indexText headerNameCount) ipaResourceNameMax
    if cat.1 > ipaResourceNameMax then none else some cat.2

/-- The client that a header was made for. -/
structure HeaderOwner where
  ipaIfNum : Nat
  headerNameCount : Nat
  ip : IpaIpType
deriving DecidableEq

structure EthHeader where
  name : List Char
  owner : HeaderOwner
deriving DecidableEq

/-- `IPA_IOC_COPY_HDR` fails, the header is too large, `IPA_IOC_ADD_HDR` fails, or none of these. -/
inductive HeaderAnswer where
  | copyFails
  | oversize
  | addFails
  | added
deriving DecidableEq

/-- A slot with the handles of its headers where they are set, and the `header_name_count` it was
made with. -/
structure EthClient where
  mac : MacAddr
  headerNameCount : Nat
  hdrHdlV4 : Option Nat
  hdrHdlV6 : Option Nat
deriving DecidableEq

def EthClient.hdrHdl (c : EthClient) : IpaIpType → Option Nat
  | .v4 => c.hdrHdlV4
  | .v6 => c.hdrHdlV6

/-- `txProp` are the families of the transmit properties, if there are such, and `ethClient` the
slots in use. -/
structure EthIface where
  txProp : Option (List IpaIpType)
  ethClient : List EthClient := []
  headerNameCount : Nat := 0

/-- The LAN interfaces by their `ipa_if_num`, and the headers in the kernel. -/
structure EthLans where
  iface : Nat → EthIface
  kernel : Handles EthHeader

namespace EthLans

/-- Adds the header of one family, if there is a transmit property for it. -/
def addHeader (ipaResourceNameMax : Nat) (kernel : Handles EthHeader) (tx : List IpaIpType)
    (owner : HeaderOwner) (answer : HeaderAnswer) : Option (Option Nat × Handles EthHeader) :=
  if owner.ip ∈ tx then
    match answer with
    | .copyFails => none
    | .oversize => none
    | .addFails => none
    | .added => do
      let name ← headerName ipaResourceNameMax owner.ipaIfNum owner.ip owner.headerNameCount
      let r := kernel.add (EthHeader.mk name owner)
      some (some r.1, r.2)
  else some (none, kernel)

def setIface (s : EthLans) (ipaIfNum : Nat) (iface : EthIface) : EthLans :=
  { s with iface := Function.update s.iface ipaIfNum iface }

/-- Whether the call succeeds, and what it leaves. -/
def handleEthHdrInit (ipaResourceNameMax : Nat) (s : EthLans) (ipaIfNum : Nat) (mac : MacAddr)
    (v4 v6 : HeaderAnswer) : Bool × EthLans :=
  let iface := s.iface ipaIfNum
  if iface.ethClient.any (·.mac = mac) then (false, s)
  else if iface.ethClient.length ≥ ipaMaxNumEthClients then (false, s)
  else
    match iface.txProp with
    | none => (true, s)
    | some tx =>
      match addHeader ipaResourceNameMax s.kernel tx ⟨ipaIfNum, iface.headerNameCount, .v4⟩ v4 with
      | none => (false, s)
      | some (hdrHdlV4, kernel) =>
        match addHeader ipaResourceNameMax kernel tx ⟨ipaIfNum, iface.headerNameCount, .v6⟩ v6 with
        | none => (false, { s with kernel := kernel })
        | some (hdrHdlV6, kernel) =>
          (true, { s with kernel := kernel }.setIface ipaIfNum { iface with
            ethClient := iface.ethClient ++ [EthClient.mk mac iface.headerNameCount hdrHdlV4 hdrHdlV6]
            headerNameCount := iface.headerNameCount + 1 })

/-- Deletes a header, if it is set. `none` is a failure. -/
def deleteHeader (kernel : Handles EthHeader) (hdl : Option Nat) (deleted : Bool) :
    Option (Handles EthHeader) :=
  match hdl with
  | none => some kernel
  | some hdl => if deleted then some (kernel.del hdl) else none

/-- `rtRules`, `v4` and `v6` are whether the routing rules and the headers are deleted. -/
def handleEthClientDownEvt (s : EthLans) (ipaIfNum : Nat) (mac : MacAddr) (rtRules v4 v6 : Bool) :
    EthLans :=
  let iface := s.iface ipaIfNum
  match iface.ethClient.findIdx? (·.mac = mac) with
  | none => s
  | some cltIndx =>
    if rtRules = false then s
    else
      match iface.ethClient[cltIndx]? with
      | none => s
      | some c =>
        match deleteHeader s.kernel c.hdrHdlV4 v4 with
        | none => s
        | some kernel =>
          match deleteHeader kernel c.hdrHdlV6 v6 with
          | none => { s with kernel := kernel }.setIface ipaIfNum { iface with
              ethClient := iface.ethClient.set cltIndx { c with hdrHdlV4 := none } }
          | some kernel => { s with kernel := kernel }.setIface ipaIfNum { iface with
              ethClient := iface.ethClient.eraseIdx cltIndx }

end EthLans

inductive EthOp where
  | attach (ipaIfNum : Nat) (mac : MacAddr) (v4 v6 : HeaderAnswer)
  | detach (ipaIfNum : Nat) (mac : MacAddr) (rtRules v4 v6 : Bool)
deriving DecidableEq

/-- The interfaces, and what each failed `handle_eth_hdr_init` started from and left. -/
structure EthRun where
  lans : EthLans
  failures : List (EthLans × EthLans)

namespace EthRun

def start (txProp : Nat → Option (List IpaIpType)) : EthRun where
  lans := ⟨fun ipaIfNum => { txProp := txProp ipaIfNum }, {}⟩
  failures := []

def step (ipaResourceNameMax : Nat) (s : EthRun) : EthOp → Option EthRun
  | .attach ipaIfNum mac v4 v6 =>
    let r := s.lans.handleEthHdrInit ipaResourceNameMax ipaIfNum mac v4 v6
    some { lans := r.2
           failures := if r.1 then s.failures else (s.lans, r.2) :: s.failures }
  | .detach ipaIfNum mac rtRules v4 v6 =>
    some { s with lans := s.lans.handleEthClientDownEvt ipaIfNum mac rtRules v4 v6 }

/-- Some client has the header with this handle. -/
def Used (s : EthLans) (g : Nat) : Prop :=
  ∃ ipaIfNum, ∃ c ∈ (s.iface ipaIfNum).ethClient, ∃ ip, c.hdrHdl ip = some g

structure HeadersRight (s : EthRun) : Prop where
  names : ∀ g g' x x', s.lans.kernel.installed g = some x → s.lans.kernel.installed g' = some x' →
    Used s.lans g → Used s.lans g' → x.name = x'.name → g = g'
  referred : ∀ g x, s.lans.kernel.installed g = some x → Used s.lans g
  failures : ∀ f ∈ s.failures, f.1.kernel.installed = f.2.kernel.installed ∧
    ∀ ipaIfNum, (f.1.iface ipaIfNum).ethClient = (f.2.iface ipaIfNum).ethClient

/-- The client is new, and there is a slot for it. -/
def Attaches (s : EthLans) (ipaIfNum : Nat) (mac : MacAddr) : Prop :=
  (∀ c ∈ (s.iface ipaIfNum).ethClient, c.mac ≠ mac) ∧
    (s.iface ipaIfNum).ethClient.length < ipaMaxNumEthClients

/-- No client that has a header of one of the families has the same first digits as the next one. -/
def OwnDigits (s : EthLans) (ipaIfNum : Nat) (tx : List IpaIpType) : Prop :=
  ∀ g < s.kernel.next, ∀ x ∈ s.kernel.installed g, x.owner.ip ∈ tx →
    ¬(indexText x.owner.ipaIfNum = indexText ipaIfNum ∧
      indexText x.owner.headerNameCount = indexText (s.iface ipaIfNum).headerNameCount)

/-- No second header fails after the first one, and an attached client has first digits of its own. -/
def Settles (s : EthRun) : EthOp → Prop
  | .attach ipaIfNum mac v4 v6 => ∀ tx ∈ (s.lans.iface ipaIfNum).txProp,
    Attaches s.lans ipaIfNum mac →
      (.v4 ∈ tx → v4 = .added → .v6 ∈ tx → v6 = .added) ∧
      ((.v4 ∈ tx → v4 = .added) → (.v6 ∈ tx → v6 = .added) → OwnDigits s.lans ipaIfNum tx)
  | .detach _ _ _ _ _ => True

def header (owner : HeaderOwner) : EthHeader where
  name := indexText owner.ipaIfNum ++ ipaEthHdrName owner.ip ++ indexText owner.headerNameCount
  owner := owner

theorem indexText_length (n : Nat) : (indexText n).length = 1 := by
  have hpos : 0 < (Nat.toDigits 10 n).length := Nat.length_toDigits_pos
  simp only [indexText, ethIfaceIndexLen, List.length_take]
  omega

theorem ipaEthHdrName_length (ip : IpaIpType) : (ipaEthHdrName ip).length = 12 := by
  cases ip <;> rfl

theorem header_injective : Function.Injective header := fun _ _ h => congrArg EthHeader.owner h

theorem header_name_iff {o o' : HeaderOwner} : (header o).name = (header o').name ↔
    indexText o.ipaIfNum = indexText o'.ipaIfNum ∧ o.ip = o'.ip ∧
      indexText o.headerNameCount = indexText o'.headerNameCount := by
  constructor
  · intro h
    have hfront : (indexText o.ipaIfNum ++ ipaEthHdrName o.ip).length =
        (indexText o'.ipaIfNum ++ ipaEthHdrName o'.ip).length := by
      simp only [List.length_append, indexText_length, ipaEthHdrName_length]
    obtain ⟨hfront, hcount⟩ := List.append_inj h hfront
    obtain ⟨hif, hip⟩ := List.append_inj hfront (by simp only [indexText_length])
    refine ⟨hif, ?_, hcount⟩
    revert hip
    cases o.ip <;> cases o'.ip <;> simp [ipaEthHdrName]
  · rintro ⟨hif, hip, hcount⟩
    simp only [header, hif, hip, hcount]

theorem headerName_eq {ipaResourceNameMax : Nat} (fits : 14 < ipaResourceNameMax)
    (o : HeaderOwner) : headerName ipaResourceNameMax o.ipaIfNum o.ip o.headerNameCount =
      some (header o).name := by
  have h1 := indexText_length o.ipaIfNum
  have h2 := ipaEthHdrName_length o.ip
  have h3 := indexText_length o.headerNameCount
  have hif : (indexText o.ipaIfNum).take (ipaResourceNameMax - 1) = indexText o.ipaIfNum :=
    List.take_of_length_le (by omega)
  have hmid : (indexText o.ipaIfNum ++ ipaEthHdrName o.ip).take (ipaResourceNameMax - 1) =
      indexText o.ipaIfNum ++ ipaEthHdrName o.ip :=
    List.take_of_length_le (by rw [List.length_append]; omega)
  have hall : (header o).name.take (ipaResourceNameMax - 1) = (header o).name :=
    List.take_of_length_le (by simp only [header, List.length_append]; omega)
  simp only [headerName, strlcat, hif, hmid]
  rw [if_neg (by omega), if_neg (by rw [List.length_append]; omega)]
  exact congrArg some hall

def Held (s : EthLans) (o : HeaderOwner) (g : Nat) : Prop :=
  ∃ c ∈ (s.iface o.ipaIfNum).ethClient, c.headerNameCount = o.headerNameCount ∧
    c.hdrHdl o.ip = some g

/-- Exactly the headers of the clients are installed, and their names are different. -/
structure Inv (s : EthLans) : Prop where
  books : s.kernel.Books header (Held s)
  older : ∀ i, ∀ c ∈ (s.iface i).ethClient, c.headerNameCount < (s.iface i).headerNameCount
  counts : ∀ i, ((s.iface i).ethClient.map (·.headerNameCount)).Nodup
  apart : ∀ o o' g g', Held s o g → Held s o' g' → (header o).name = (header o').name → o = o'

section kernel

variable {ipaResourceNameMax : Nat} {k k' : Handles EthHeader} {tx : List IpaIpType}
  {o : HeaderOwner} {answer : HeaderAnswer} {hdl : Option Nat} {held : HeaderOwner → Nat → Prop}

theorem addHeader_absent (h : o.ip ∉ tx) :
    EthLans.addHeader ipaResourceNameMax k tx o answer = some (none, k) := if_neg h

theorem addHeader_added (fits : 14 < ipaResourceNameMax) (h : o.ip ∈ tx) :
    EthLans.addHeader ipaResourceNameMax k tx o .added =
      some (some k.next, (k.add (header o)).2) := by
  simp only [EthLans.addHeader, if_pos h, headerName_eq fits, Option.bind_eq_bind, Option.bind_some]
  rfl

theorem addHeader_fails (h : o.ip ∈ tx) (hfails : answer ≠ .added) :
    EthLans.addHeader ipaResourceNameMax k tx o answer = none := by
  simp only [EthLans.addHeader, if_pos h]
  grind

theorem addHeader_books (fits : 14 < ipaResourceNameMax) (h : k.Books header held)
    (hadded : o.ip ∈ tx → answer = .added) : ∃ hdl k',
      EthLans.addHeader ipaResourceNameMax k tx o answer = some (hdl, k') ∧
      k'.Books header (fun slot g => held slot g ∨ slot = o ∧ hdl = some g) ∧
      (o.ip ∈ tx → hdl = some k.next) ∧ (o.ip ∉ tx → hdl = none) ∧ k.next ≤ k'.next := by
  by_cases htx : o.ip ∈ tx
  · rw [hadded htx]
    refine ⟨_, _, addHeader_added fits htx, ?_, fun _ => rfl, fun hnot => absurd htx hnot,
      Nat.le_succ _⟩
    refine (h.add o).congr (fun slot g => or_congr_right (and_congr_right fun _ => ?_))
      fun _ _ _ => rfl
    rw [Option.some.injEq]
    exact eq_comm
  · refine ⟨_, _, addHeader_absent htx, ?_, fun hin => absurd hin htx, fun _ => rfl,
      Nat.le_refl _⟩
    grind

theorem deleteHeader_books (h : k.Books header held) (hheld : ∀ g, hdl = some g ↔ held o g)
    {deleted : Bool} (hdel : EthLans.deleteHeader k hdl deleted = some k') :
    k'.Books header fun slot g => held slot g ∧ slot ≠ o := by
  have hall : k' = k.delAll hdl.toList := by
    cases hdl with
    | none => exact (Option.some.inj hdel).symm
    | some g =>
      cases deleted with
      | false => cases hdel
      | true => exact (Option.some.inj hdel).symm
  rw [hall]
  refine h.delAll header_injective hdl.toList (· = o) (fun slot g hslot hg => ?_) fun g hg => ?_
  · exact Option.mem_toList.mpr ((hheld g).mpr (hslot ▸ hg))
  grind

end kernel

section attach

variable {ipaResourceNameMax : Nat} {s : EthLans} {i : Nat} {mac : MacAddr} {v4 v6 : HeaderAnswer}
  {tx : List IpaIpType}

theorem handleEthHdrInit_attaches (attaches : Attaches s i mac) (htx : (s.iface i).txProp = some tx) :
    s.handleEthHdrInit ipaResourceNameMax i mac v4 v6 =
      match EthLans.addHeader ipaResourceNameMax s.kernel tx
          ⟨i, (s.iface i).headerNameCount, .v4⟩ v4 with
      | none => (false, s)
      | some (hdrHdlV4, kernel) =>
        match EthLans.addHeader ipaResourceNameMax kernel tx
            ⟨i, (s.iface i).headerNameCount, .v6⟩ v6 with
        | none => (false, { s with kernel := kernel })
        | some (hdrHdlV6, kernel) =>
          (true, { s with kernel := kernel }.setIface i { s.iface i with
            ethClient := (s.iface i).ethClient ++
              [EthClient.mk mac (s.iface i).headerNameCount hdrHdlV4 hdrHdlV6]
            headerNameCount := (s.iface i).headerNameCount + 1 }) := by
  have hnew : ¬((s.iface i).ethClient.any (·.mac = mac)) = true := by simpa using attaches.1
  have hroom : ¬(s.iface i).ethClient.length ≥ ipaMaxNumEthClients := Nat.not_le.mpr attaches.2
  unfold EthLans.handleEthHdrInit
  simp only [if_neg hnew, if_neg hroom, htx]

theorem Inv.attach_success (fits : 14 < ipaResourceNameMax) (h : Inv s)
    (attaches : Attaches s i mac) (htx : (s.iface i).txProp = some tx)
    (h4 : .v4 ∈ tx → v4 = .added) (h6 : .v6 ∈ tx → v6 = .added) : ∃ c kernel,
      s.handleEthHdrInit ipaResourceNameMax i mac v4 v6 =
        (true, { s with kernel := kernel }.setIface i { s.iface i with
          ethClient := (s.iface i).ethClient ++ [c]
          headerNameCount := (s.iface i).headerNameCount + 1 }) ∧
      c.headerNameCount = (s.iface i).headerNameCount ∧
      (∀ ip ∈ tx, ∃ g, c.hdrHdl ip = some g ∧ s.kernel.next ≤ g) ∧
      (∀ ip g, c.hdrHdl ip = some g → ip ∈ tx) ∧
      kernel.Books header fun slot g => Held s slot g ∨ slot.ipaIfNum = i ∧
        slot.headerNameCount = (s.iface i).headerNameCount ∧ c.hdrHdl slot.ip = some g := by
  obtain ⟨hdl4, k4, hadd4, hbooks4, hin4, hout4, hle4⟩ :=
    addHeader_books (o := ⟨i, (s.iface i).headerNameCount, .v4⟩) fits h.books h4
  obtain ⟨hdl6, k6, hadd6, hbooks6, hin6, hout6, -⟩ :=
    addHeader_books (o := ⟨i, (s.iface i).headerNameCount, .v6⟩) fits hbooks4 h6
  refine ⟨⟨mac, (s.iface i).headerNameCount, hdl4, hdl6⟩, k6, ?_, rfl, ?_, ?_, ?_⟩
  · rw [handleEthHdrInit_attaches attaches htx]
    simp only [hadd4, hadd6]
  · intro ip hip
    cases ip with
    | v4 => exact ⟨_, hin4 hip, Nat.le_refl _⟩
    | v6 => exact ⟨_, hin6 hip, hle4⟩
  · intro ip g hg
    by_contra hip
    cases ip with
    | v4 => exact Option.some_ne_none g (hg.symm.trans (hout4 hip))
    | v6 => exact Option.some_ne_none g (hg.symm.trans (hout6 hip))
  · refine hbooks6.congr (fun slot g => ?_) fun _ _ _ => rfl
    rw [or_assoc]
    refine or_congr_right ?_
    obtain ⟨j, n, ip⟩ := slot
    cases ip <;> simp [EthClient.hdrHdl, and_assoc]

theorem held_attach {c : EthClient} {kernel : Handles EthHeader} (o : HeaderOwner) (g : Nat) :
    Held ({ s with kernel := kernel }.setIface i { s.iface i with
      ethClient := (s.iface i).ethClient ++ [c]
      headerNameCount := (s.iface i).headerNameCount + 1 }) o g ↔
    Held s o g ∨ o.ipaIfNum = i ∧ o.headerNameCount = c.headerNameCount ∧ c.hdrHdl o.ip = some g := by
  by_cases hi : o.ipaIfNum = i
  · subst hi
    simp [Held, EthLans.setIface, or_and_right, exists_or, eq_comm]
  · simp [Held, EthLans.setIface, hi]

theorem setIface_self (s : EthLans) (i : Nat) (iface : EthIface) :
    (s.setIface i iface).iface i = iface := Function.update_self ..

theorem setIface_other (s : EthLans) {i j : Nat} (iface : EthIface) (h : j ≠ i) :
    (s.setIface i iface).iface j = s.iface j := Function.update_of_ne h ..

theorem Inv.attach (h : Inv s) (own : OwnDigits s i tx) {c : EthClient} {kernel : Handles EthHeader}
    (hcount : c.headerNameCount = (s.iface i).headerNameCount)
    (hin : ∀ ip g, c.hdrHdl ip = some g → ip ∈ tx)
    (hbooks : kernel.Books header fun slot g => Held s slot g ∨ slot.ipaIfNum = i ∧
      slot.headerNameCount = (s.iface i).headerNameCount ∧ c.hdrHdl slot.ip = some g) :
    Inv ({ s with kernel := kernel }.setIface i { s.iface i with
      ethClient := (s.iface i).ethClient ++ [c]
      headerNameCount := (s.iface i).headerNameCount + 1 }) := by
  -- no client that was there has the name of a new header
  have hnew : ∀ o o' g g', Held s o g → o'.ipaIfNum = i →
      o'.headerNameCount = (s.iface i).headerNameCount → c.hdrHdl o'.ip = some g' →
      (header o).name ≠ (header o').name := by
    intro o o' g g' hg hi hn hg' hname
    obtain ⟨hif, hip, hnum⟩ := header_name_iff.mp hname
    refine own g (h.books.lt_next hg) (header o) (h.books.installed hg) ?_ ⟨?_, ?_⟩
    · exact hip ▸ hin o'.ip g' hg'
    · exact hi ▸ hif
    · exact hn ▸ hnum
  refine ⟨hbooks.congr (fun slot g => ?_) fun _ _ _ => rfl, fun j x hx => ?_, fun j => ?_, ?_⟩
  · rw [held_attach, hcount]
  · by_cases hj : j = i
    · subst hj
      rw [setIface_self] at hx ⊢
      rcases List.mem_append.mp hx with hx | hx
      · exact Nat.lt_succ_of_lt (h.older j x hx)
      · rw [List.mem_singleton.mp hx, hcount]
        exact Nat.lt_succ_self _
    · rw [setIface_other _ _ hj] at hx ⊢
      exact h.older j x hx
  · by_cases hj : j = i
    · subst hj
      rw [setIface_self]
      have hfresh : c.headerNameCount ∉ (s.iface j).ethClient.map (·.headerNameCount) := by
        intro hmem
        obtain ⟨x, hx, heq⟩ := List.mem_map.mp hmem
        have hlt := h.older j x hx
        omega
      simpa using (h.counts j).concat hfresh
    · rw [setIface_other _ _ hj]
      exact h.counts j
  · intro o o' g g' hg hg' hname
    rw [held_attach, hcount] at hg hg'
    rcases hg with hg | ⟨hi, hn, hg⟩
    · rcases hg' with hg' | ⟨hi', hn', hg'⟩
      · exact h.apart o o' g g' hg hg' hname
      · exact absurd hname (hnew o o' g g' hg hi' hn' hg')
    · rcases hg' with hg' | ⟨hi', hn', hg'⟩
      · exact absurd hname.symm (hnew o' o g' g hg' hi hn hg)
      · obtain ⟨oif, on, oip⟩ := o
        obtain ⟨oif', on', oip'⟩ := o'
        obtain ⟨-, hip, -⟩ := header_name_iff.mp hname
        grind

theorem handleEthHdrInit_cases (ipaResourceNameMax : Nat) (s : EthLans) (i : Nat) (mac : MacAddr)
    (v4 v6 : HeaderAnswer) :
    (∃ done, s.handleEthHdrInit ipaResourceNameMax i mac v4 v6 = (done, s)) ∨
      Attaches s i mac ∧ ∃ tx, (s.iface i).txProp = some tx := by
  by_cases hold : (s.iface i).ethClient.any (·.mac = mac) = true
  · exact Or.inl ⟨false, if_pos hold⟩
  by_cases hfull : (s.iface i).ethClient.length ≥ ipaMaxNumEthClients
  · exact Or.inl ⟨false, (if_neg hold).trans (if_pos hfull)⟩
  cases htx : (s.iface i).txProp with
  | none =>
    refine Or.inl ⟨true, ?_⟩
    unfold EthLans.handleEthHdrInit
    simp only [if_neg hold, if_neg hfull, htx]
  | some tx => exact Or.inr ⟨⟨by simpa using hold, Nat.lt_of_not_le hfull⟩, tx, rfl⟩

theorem Inv.attach_settles (fits : 14 < ipaResourceNameMax) {s : EthRun} (h : Inv s.lans)
    (good : Settles s (.attach i mac v4 v6)) :
    (∃ done, s.lans.handleEthHdrInit ipaResourceNameMax i mac v4 v6 = (done, s.lans)) ∨
      ∃ t, s.lans.handleEthHdrInit ipaResourceNameMax i mac v4 v6 = (true, t) ∧ Inv t := by
  rcases handleEthHdrInit_cases ipaResourceNameMax s.lans i mac v4 v6 with hsame | ⟨hatt, tx, htx⟩
  · exact Or.inl hsame
  obtain ⟨hboth, hown⟩ := good tx htx hatt
  by_cases h4 : .v4 ∈ tx → v4 = .added
  · by_cases h6 : .v6 ∈ tx → v6 = .added
    · obtain ⟨c, kernel, hinit, hcount, -, hin, hbooks⟩ := h.attach_success fits hatt htx h4 h6
      exact Or.inr ⟨_, hinit, h.attach (hown h4 h6) hcount hin hbooks⟩
    · obtain ⟨hin6, hfail6⟩ := Classical.not_imp.mp h6
      have hout4 : .v4 ∉ tx := fun hin4 => hfail6 (hboth hin4 (h4 hin4) hin6)
      refine Or.inl ⟨false, ?_⟩
      rw [handleEthHdrInit_attaches hatt htx, addHeader_absent hout4]
      simp only [addHeader_fails (o := ⟨i, (s.lans.iface i).headerNameCount, .v6⟩) hin6 hfail6]
  · obtain ⟨hin4, hfail4⟩ := Classical.not_imp.mp h4
    refine Or.inl ⟨false, ?_⟩
    rw [handleEthHdrInit_attaches hatt htx,
      addHeader_fails (o := ⟨i, (s.lans.iface i).headerNameCount, .v4⟩) hin4 hfail4]

end attach

section detach

variable {s : EthLans} {i : Nat} {pre post : List EthClient} {c : EthClient}
  {kernel : Handles EthHeader}

theorem Inv.lose (h : Inv s) {l : List EthClient}
    (hsub : (l.map (·.headerNameCount)).Sublist ((s.iface i).ethClient.map (·.headerNameCount)))
    (hheld : ∀ o g, Held ({ s with kernel := kernel }.setIface i
      { s.iface i with ethClient := l }) o g → Held s o g)
    (hbooks : kernel.Books header (Held ({ s with kernel := kernel }.setIface i
      { s.iface i with ethClient := l }))) :
    Inv ({ s with kernel := kernel }.setIface i { s.iface i with ethClient := l }) := by
  refine ⟨hbooks, fun j x hx => ?_, fun j => ?_, fun o o' g g' hg hg' hname => ?_⟩
  · by_cases hj : j = i
    · subst hj
      rw [setIface_self] at hx ⊢
      obtain ⟨y, hy, heq⟩ := List.mem_map.mp (hsub.subset (List.mem_map_of_mem hx))
      have hlt := h.older j y hy
      dsimp only at heq ⊢
      omega
    · rw [setIface_other _ _ hj] at hx ⊢
      exact h.older j x hx
  · by_cases hj : j = i
    · subst hj
      rw [setIface_self]
      exact hsub.nodup (h.counts j)
    · rw [setIface_other _ _ hj]
      exact h.counts j
  · exact h.apart o o' g g' (hheld o g hg) (hheld o' g' hg') hname

theorem Inv.other_count (h : Inv s) (hc : (s.iface i).ethClient = pre ++ c :: post)
    {x : EthClient} (hx : x ∈ pre ++ post) : x.headerNameCount ≠ c.headerNameCount := by
  have hnodup := h.counts i
  rw [hc, List.map_append, List.map_cons] at hnodup
  have hnot := (List.nodup_cons.mp (List.nodup_middle.mp hnodup)).1
  rw [← List.map_append] at hnot
  exact fun heq => hnot (heq ▸ List.mem_map_of_mem hx)

theorem held_iff (hc : (s.iface i).ethClient = pre ++ c :: post) {o : HeaderOwner} (ho : o.ipaIfNum = i)
    (g : Nat) : Held s o g ↔ (c.headerNameCount = o.headerNameCount ∧ c.hdrHdl o.ip = some g) ∨
      ∃ x ∈ pre ++ post, x.headerNameCount = o.headerNameCount ∧ x.hdrHdl o.ip = some g := by
  subst ho
  simp only [Held, hc, List.mem_append, List.mem_cons, or_and_right, exists_or, exists_eq_left]
  exact or_left_comm

theorem Inv.hdrHdl_iff (h : Inv s) (hc : (s.iface i).ethClient = pre ++ c :: post) (ip : IpaIpType)
    (g : Nat) : c.hdrHdl ip = some g ↔ Held s ⟨i, c.headerNameCount, ip⟩ g := by
  rw [held_iff hc rfl]
  refine ⟨fun hg => Or.inl ⟨rfl, hg⟩, fun hg => (hg.resolve_right ?_).2⟩
  rintro ⟨x, hx, hcount, -⟩
  exact h.other_count hc hx hcount

theorem held_other {l : List EthClient} {o : HeaderOwner} (ho : o.ipaIfNum ≠ i) (g : Nat) :
    Held ({ s with kernel := kernel }.setIface i { s.iface i with ethClient := l }) o g ↔
      Held s o g := by
  simp [Held, EthLans.setIface, ho]

theorem Inv.held_partly (h : Inv s) (hc : (s.iface i).ethClient = pre ++ c :: post) (o : HeaderOwner)
    (g : Nat) : Held ({ s with kernel := kernel }.setIface i { s.iface i with
      ethClient := pre ++ { c with hdrHdlV4 := none } :: post }) o g ↔
      Held s o g ∧ o ≠ ⟨i, c.headerNameCount, .v4⟩ := by
  by_cases ho : o.ipaIfNum = i
  · have hnew : (({ s with kernel := kernel }.setIface i { s.iface i with
        ethClient := pre ++ { c with hdrHdlV4 := none } :: post }).iface i).ethClient =
        pre ++ { c with hdrHdlV4 := none } :: post := by rw [setIface_self]
    rw [held_iff hnew ho, held_iff hc ho]
    constructor
    · rintro (⟨hcount, hg⟩ | ⟨x, hx, hcount, hg⟩)
      · obtain ⟨oif, on, oip⟩ := o
        cases oip with
        | v4 => cases hg
        | v6 => exact ⟨Or.inl ⟨hcount, hg⟩, by simp⟩
      · refine ⟨Or.inr ⟨x, hx, hcount, hg⟩, ?_⟩
        rintro rfl
        exact h.other_count hc hx hcount
    · rintro ⟨⟨hcount, hg⟩ | ⟨x, hx, hcount, hg⟩, hne⟩
      · obtain ⟨oif, on, oip⟩ := o
        cases oip with
        | v4 => exact absurd (by rw [hcount, ← ho]) hne
        | v6 => exact Or.inl ⟨hcount, hg⟩
      · exact Or.inr ⟨x, hx, hcount, hg⟩
  · rw [held_other ho]
    grind

theorem Inv.held_gone (h : Inv s) (hc : (s.iface i).ethClient = pre ++ c :: post) (o : HeaderOwner)
    (g : Nat) : Held ({ s with kernel := kernel }.setIface i { s.iface i with
      ethClient := pre ++ post }) o g ↔
      (Held s o g ∧ o ≠ ⟨i, c.headerNameCount, .v4⟩) ∧ o ≠ ⟨i, c.headerNameCount, .v6⟩ := by
  by_cases ho : o.ipaIfNum = i
  · have hleft : Held ({ s with kernel := kernel }.setIface i { s.iface i with
        ethClient := pre ++ post }) o g ↔
        ∃ x ∈ pre ++ post, x.headerNameCount = o.headerNameCount ∧ x.hdrHdl o.ip = some g := by
      simp [Held, EthLans.setIface, ho]
    rw [hleft, held_iff hc ho]
    constructor
    · rintro ⟨x, hx, hcount, hg⟩
      refine ⟨⟨Or.inr ⟨x, hx, hcount, hg⟩, ?_⟩, ?_⟩
      · rintro rfl
        exact h.other_count hc hx hcount
      · rintro rfl
        exact h.other_count hc hx hcount
    · rintro ⟨⟨⟨hcount, -⟩ | hx, hne4⟩, hne6⟩
      · obtain ⟨oif, on, oip⟩ := o
        cases oip with
        | v4 => exact absurd (by rw [hcount, ← ho]) hne4
        | v6 => exact absurd (by rw [hcount, ← ho]) hne6
      · exact hx
  · rw [held_other ho]
    grind

theorem Inv.detach (h : Inv s) (mac : MacAddr) (rtRules v4 v6 : Bool) :
    Inv (s.handleEthClientDownEvt i mac rtRules v4 v6) := by
  unfold EthLans.handleEthClientDownEvt
  dsimp only
  cases hidx : (s.iface i).ethClient.findIdx? (·.mac = mac) with
  | none => exact h
  | some cltIndx =>
    obtain ⟨hlt, -⟩ := List.findIdx?_eq_some_iff_getElem.mp hidx
    obtain ⟨pre, post, hc, hlen, -⟩ := @List.exists_of_set _ cltIndx (s.iface i).ethClient[cltIndx] _ hlt
    generalize (s.iface i).ethClient[cltIndx] = c at hc
    have hget : (s.iface i).ethClient[cltIndx]? = some c := by
      rw [hc, ← hlen]
      simp
    cases rtRules with
    | false => exact h
    | true =>
      simp only [Bool.true_eq_false, if_false, hget]
      cases hdel4 : EthLans.deleteHeader s.kernel c.hdrHdlV4 v4 with
      | none => exact h
      | some k4 =>
        have hbooks4 := deleteHeader_books h.books (fun g => h.hdrHdl_iff hc .v4 g) hdel4
        dsimp only
        cases hdel6 : EthLans.deleteHeader k4 c.hdrHdlV6 v6 with
        | none =>
          have hset : (s.iface i).ethClient.set cltIndx { c with hdrHdlV4 := none } =
              pre ++ { c with hdrHdlV4 := none } :: post := by
            rw [hc, ← hlen]
            simp
          dsimp only
          rw [hset]
          refine h.lose ?_ (fun o g hg => ((h.held_partly hc o g).mp hg).1)
            (hbooks4.congr (fun o g => h.held_partly hc o g) fun _ _ _ => rfl)
          rw [hc, List.map_append, List.map_append, List.map_cons, List.map_cons]
        | some k6 =>
          have herase : (s.iface i).ethClient.eraseIdx cltIndx = pre ++ post := by
            rw [hc, ← hlen]
            simp [List.eraseIdx_append]
          have hbooks6 := deleteHeader_books (o := ⟨i, c.headerNameCount, .v6⟩) hbooks4
            (fun g => (h.hdrHdl_iff hc .v6 g).trans (by simp)) hdel6
          dsimp only
          rw [herase]
          refine h.lose ?_ (fun o g hg => ((h.held_gone hc o g).mp hg).1.1)
            (hbooks6.congr (fun o g => h.held_gone hc o g) fun _ _ _ => rfl)
          simp [hc, List.map_append, List.map_cons]

end detach

/-- The interfaces are in order, and no failed call left a trace. -/
structure RunInv (s : EthRun) : Prop where
  lans : Inv s.lans
  failures : ∀ f ∈ s.failures, f.1.kernel.installed = f.2.kernel.installed ∧
    ∀ ipaIfNum, (f.1.iface ipaIfNum).ethClient = (f.2.iface ipaIfNum).ethClient

section run

variable {ipaResourceNameMax : Nat} {s : EthRun}

theorem used_iff {s : EthLans} {g : Nat} : Used s g ↔ ∃ o, Held s o g := by
  constructor
  · rintro ⟨i, c, hc, ip, hg⟩
    exact ⟨⟨i, c.headerNameCount, ip⟩, c, hc, rfl, hg⟩
  · rintro ⟨o, c, hc, -, hg⟩
    exact ⟨o.ipaIfNum, c, hc, o.ip, hg⟩

theorem RunInv.right (h : RunInv s) : HeadersRight s where
  names g g' x x' hx hx' _ _ hname := by
    obtain ⟨o, hg, rfl⟩ := (h.lans.books.installed_iff g x).mp hx
    obtain ⟨o', hg', rfl⟩ := (h.lans.books.installed_iff g' x').mp hx'
    have ho : o = o' := h.lans.apart o o' g g' hg hg' hname
    subst ho
    obtain ⟨c, hc, hcount, hhdl⟩ := hg
    obtain ⟨c', hc', hcount', hhdl'⟩ := hg'
    have hsame : c = c' :=
      List.inj_on_of_nodup_map (h.lans.counts o.ipaIfNum) hc hc' (hcount.trans hcount'.symm)
    subst hsame
    exact Option.some.inj (hhdl.symm.trans hhdl')
  referred g x hx := by
    obtain ⟨o, hg, -⟩ := (h.lans.books.installed_iff g x).mp hx
    exact used_iff.mpr ⟨o, hg⟩
  failures := h.failures

theorem start_inv (txProp : Nat → Option (List IpaIpType)) : RunInv (start txProp) where
  lans := by
    have hnone : ∀ o g, ¬Held (start txProp).lans o g := by
      rintro o g ⟨c, hc, -⟩
      cases hc
    refine ⟨?_, fun i c hc => ?_, fun i => List.nodup_nil, fun o o' g g' hg => ?_⟩
    · exact (Handles.books_empty header).congr (fun o g => iff_of_false (hnone o g) not_false)
        fun _ _ _ => rfl
    · cases hc
    · exact absurd hg (hnone o g)
  failures := by simp [start]

theorem RunInv.keeps (fits : 14 < ipaResourceNameMax) (h : RunInv s) {op : EthOp}
    (good : Settles s op) : ∃ t, s.step ipaResourceNameMax op = some t ∧ RunInv t := by
  cases op with
  | detach i mac rtRules v4 v6 =>
    exact ⟨_, rfl, h.lans.detach mac rtRules v4 v6, h.failures⟩
  | attach i mac v4 v6 =>
    simp only [step]
    rcases h.lans.attach_settles fits good with ⟨done, hsame⟩ | ⟨t, hdone, hinv⟩
    · rw [hsame]
      refine ⟨_, rfl, h.lans, ?_⟩
      cases done with
      | true => exact h.failures
      | false =>
        intro f hf
        rcases List.mem_cons.mp hf with rfl | hf
        · exact ⟨rfl, fun _ => rfl⟩
        · exact h.failures f hf
    · rw [hdone]
      exact ⟨_, rfl, hinv, h.failures⟩

theorem RunInv.breaks (fits : 14 < ipaResourceNameMax) (h : RunInv s) {op : EthOp}
    (bad : ¬Settles s op) : ∃ t, s.step ipaResourceNameMax op = some t ∧ ¬HeadersRight t := by
  cases op with
  | detach i mac rtRules v4 v6 => exact absurd trivial bad
  | attach i mac v4 v6 =>
    simp only [Settles, not_forall] at bad
    obtain ⟨tx, htx, hatt, hbad⟩ := bad
    refine ⟨_, rfl, fun hright => hbad ⟨fun hin4 hadd4 hin6 => ?_, fun h4 h6 => ?_⟩⟩
    · by_contra hfail6
      have hinit : s.lans.handleEthHdrInit ipaResourceNameMax i mac v4 v6 = (false, { s.lans with
          kernel := (s.lans.kernel.add (header ⟨i, (s.lans.iface i).headerNameCount, .v4⟩)).2 }) := by
        rw [handleEthHdrInit_attaches hatt htx, hadd4,
          addHeader_added (o := ⟨i, (s.lans.iface i).headerNameCount, .v4⟩) fits hin4]
        simp only [addHeader_fails (o := ⟨i, (s.lans.iface i).headerNameCount, .v6⟩) hin6 hfail6]
      have hreferred := hright.referred s.lans.kernel.next
        (header ⟨i, (s.lans.iface i).headerNameCount, .v4⟩)
      dsimp only at hreferred
      rw [hinit] at hreferred
      obtain ⟨o, hg⟩ := used_iff.mp (hreferred (Function.update_self ..))
      exact Nat.lt_irrefl _ (h.lans.books.lt_next (show Held s.lans o _ from hg))
    · intro g hg x hx hip hdigits
      obtain ⟨c, kernel, hinit, hcount, hnew, -, hbooks⟩ := h.lans.attach_success fits hatt htx h4 h6
      obtain ⟨g', hg', hle⟩ := hnew x.owner.ip hip
      obtain ⟨o, hheld, rfl⟩ := (h.lans.books.installed_iff g x).mp hx
      have hold := (hbooks.installed_iff g (header o)).mpr ⟨o, Or.inl hheld, rfl⟩
      have hmade := (hbooks.installed_iff g' (header ⟨i, (s.lans.iface i).headerNameCount, o.ip⟩)).mpr
        ⟨⟨i, (s.lans.iface i).headerNameCount, o.ip⟩, Or.inr ⟨rfl, rfl, hg'⟩, rfl⟩
      have hname : (header o).name = (header ⟨i, (s.lans.iface i).headerNameCount, o.ip⟩).name :=
        header_name_iff.mpr ⟨hdigits.1, rfl, hdigits.2⟩
      have hnames := hright.names g g' (header o) (header ⟨i, (s.lans.iface i).headerNameCount, o.ip⟩)
      dsimp only at hnames
      rw [hinit] at hnames
      have hsame := hnames hold hmade (used_iff.mpr ⟨o, (held_attach o g).mpr (Or.inl hheld)⟩)
        (used_iff.mpr ⟨⟨i, (s.lans.iface i).headerNameCount, o.ip⟩,
          (held_attach _ g').mpr (Or.inr ⟨rfl, hcount.symm, hg'⟩)⟩) hname
      omega

end run

/-- The headers are right after every call exactly if no second header fails and all clients have
first digits of their own. -/
theorem headersRight_iff {ipaResourceNameMax : Nat} (fits : 14 < ipaResourceNameMax)
    (txProp : Nat → Option (List IpaIpType)) (ops : List EthOp) :
    Always (step ipaResourceNameMax) HeadersRight (start txProp) ops ↔
      OpsMeet (step ipaResourceNameMax) Settles (start txProp) ops :=
  @always_iff _ _ (step ipaResourceNameMax) (fun _ _ => True) RunInv HeadersRight Settles
    (fun _ hs => hs.right) (fun _ _ hs _ good => hs.keeps fits good)
    (fun _ _ hs _ bad => hs.breaks fits bad) _ _ (start_inv txProp) (opsMeet_true _ ops)

instance (s : EthLans) (i : Nat) (mac : MacAddr) : Decidable (Attaches s i mac) :=
  inferInstanceAs (Decidable (_ ∧ _))

instance (s : EthLans) (i : Nat) (tx : List IpaIpType) : Decidable (OwnDigits s i tx) :=
  inferInstanceAs (Decidable (∀ g < s.kernel.next, ∀ x ∈ s.kernel.installed g, _))

instance (s : EthRun) : ∀ op, Decidable (Settles s op)
  | .attach i _ _ _ => inferInstanceAs (Decidable (∀ tx ∈ (s.lans.iface i).txProp, _))
  | .detach _ _ _ _ _ => isTrue trivial

/-- Every interface has transmit properties for both families. -/
def bothFamilies : Nat → Option (List IpaIpType) := fun _ => some [.v4, .v6]

def macA : MacAddr := BridgeHistory.firstMac

def macB : MacAddr := BridgeHistory.secondMac

theorem two_clients_right : Always (step 32) HeadersRight (start bothFamilies)
    [.attach 0 macA .added .added, .attach 0 macB .added .added,
      .detach 0 macA true true true] :=
  (headersRight_iff (by decide) bothFamilies _).mpr (by decide)

/-- Clients of the interfaces 1 and 10 have headers of one name, and the failure of a second header
leaves the first one. -/
theorem interfaces_one_and_ten :
    ¬Always (step 32) HeadersRight (start bothFamilies)
        [.attach 1 macA .added .added, .attach 10 macB .added .added] ∧
      ¬Always (step 32) HeadersRight (start bothFamilies) [.attach 0 macA .added .addFails] := by
  constructor
  · intro always
    obtain ⟨s, hs, h1, h3, hc1, hc10⟩ : ∃ s, runOps (step 32) (start bothFamilies)
        [.attach 1 macA .added .added, .attach 10 macB .added .added] = some s ∧
        s.lans.kernel.installed 1 = some (header ⟨1, 0, .v4⟩) ∧
        s.lans.kernel.installed 3 = some (header ⟨10, 0, .v4⟩) ∧
        (s.lans.iface 1).ethClient = [⟨macA, 0, some 1, some 2⟩] ∧
        (s.lans.iface 10).ethClient = [⟨macB, 0, some 3, some 4⟩] := ⟨_, rfl, rfl, rfl, rfl, rfl⟩
    have hused1 : Used s.lans 1 := ⟨1, _, by rw [hc1]; exact List.mem_cons_self, .v4, rfl⟩
    have hused3 : Used s.lans 3 := ⟨10, _, by rw [hc10]; exact List.mem_cons_self, .v4, rfl⟩
    exact absurd ((always.last hs).names 1 3 _ _ h1 h3 hused1 hused3 rfl) (by decide)
  · intro always
    obtain ⟨s, hs, h1, hnone⟩ : ∃ s, runOps (step 32) (start bothFamilies)
        [.attach 0 macA .added .addFails] = some s ∧
        s.lans.kernel.installed 1 = some (header ⟨0, 0, .v4⟩) ∧
        ∀ i, (s.lans.iface i).ethClient = [] := ⟨_, rfl, rfl, fun _ => rfl⟩
    obtain ⟨i, c, hc, -⟩ := (always.last hs).referred 1 _ h1
    rw [hnone i] at hc
    cases hc

end EthRun

end DeviceHal.Ipacm
