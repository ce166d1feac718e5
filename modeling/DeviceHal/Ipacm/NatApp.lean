import DeviceHal.Ipacm.Driver
import DeviceHal.Lib.Loop

namespace DeviceHal.Ipacm

open IpaNat

universe u

/-- The fields of a `nat_table_entry` that the cache searches compare. -/
structure NatTuple where
  privateIp : UInt32 := 0
  privatePort : UInt16 := 0
  targetIp : UInt32 := 0
  targetPort : UInt16 := 0
  protocol : UInt8 := 0
deriving DecidableEq, Repr

/-- `nat_table_entry`. The last field is a history variable: the connection the entry was made
for, which no branch reads. -/
structure NatTableEntry (κ : Type u) where
  privateIp : UInt32 := 0
  privatePort : UInt16 := 0
  targetIp : UInt32 := 0
  targetPort : UInt16 := 0
  publicIp : UInt32 := 0
  publicPort : UInt16 := 0
  protocol : UInt8 := 0
  timestamp : UInt32 := 0
  dstNat : Bool := false
  enabled : Bool := false
  ruleHdl : UInt32 := 0
  origin : Option κ := none
deriving DecidableEq, Repr

/-- `ipacm_alg`: a protocol and port whose connections are not translated. -/
structure IpacmAlg where
  protocol : UInt8
  port : UInt16
deriving DecidableEq, Repr

namespace NatTableEntry

variable {κ : Type u}

def tuple (e : NatTableEntry κ) : NatTuple :=
  ⟨e.privateIp, e.privatePort, e.targetIp, e.targetPort, e.protocol⟩

def isEmpty (e : NatTableEntry κ) : Bool := e.tuple = {}

/-- A connection with one of these fields zero is not stored. -/
def isInvalid (e : NatTableEntry κ) : Bool :=
  e.privateIp = 0 ∨ e.targetIp = 0 ∨ e.privatePort = 0 ∨ e.targetPort = 0 ∨ e.protocol = 0

/-- The rule the driver is asked for; the rest of it is zeroed. -/
def natRule (e : NatTableEntry κ) : IpaNatIpv4Rule where
  targetIp := e.targetIp
  privateIp := e.privateIp
  targetPort := e.targetPort
  privatePort := e.privatePort
  publicPort := e.publicPort
  protocol := e.protocol
  pdnIndex := 0

/-- The fields `AddEntry` and `CacheEntry` both copy from the rule to a free slot. -/
def fill (e rule : NatTableEntry κ) : NatTableEntry κ :=
  { e with
    privateIp := rule.privateIp
    targetIp := rule.targetIp
    targetPort := rule.targetPort
    privatePort := rule.privatePort
    protocol := rule.protocol
    timestamp := 0
    publicPort := rule.publicPort
    dstNat := rule.dstNat
    origin := rule.origin }

@[simp] theorem isEmpty_zero : ({} : NatTableEntry κ).isEmpty = true := rfl

@[simp] theorem tuple_fill (e rule : NatTableEntry κ) : (e.fill rule).tuple = rule.tuple := rfl

@[simp] theorem natRule_fill (e rule : NatTableEntry κ) : (e.fill rule).natRule = rule.natRule := rfl

@[simp] theorem enabled_fill (e rule : NatTableEntry κ) : (e.fill rule).enabled = e.enabled := rfl

@[simp] theorem ruleHdl_fill (e rule : NatTableEntry κ) : (e.fill rule).ruleHdl = e.ruleHdl := rfl

theorem isEmpty_of_valid {e : NatTableEntry κ} (h : e.isInvalid = false) : e.isEmpty = false := by
  unfold isEmpty
  rw [decide_eq_false_iff_not]
  intro he
  have hp : e.privateIp = 0 := congrArg NatTuple.privateIp he
  simp [isInvalid, hp] at h

end NatTableEntry

open Lib

def maxTempEntries : Nat := 25

def ipaMaxNumWifiClients : Nat := 32

/-- `NatApp`, with the state of the driver it calls. `max_entries` is the length of the cache. -/
structure NatApp (κ : Type u) (δ : Type v) where
  cache : List (NatTableEntry κ)
  temp : List (NatTableEntry κ)
  pubIpAddr : UInt32
  pubIpAddrPre : UInt32
  natTableHdl : UInt32
  curCnt : Int
  algPorts : List IpacmAlg
  pwrSaveIfs : List UInt32
  dev : δ

namespace NatApp

variable {κ : Type u} {δ : Type v}

/-- A new object. The constructor leaves `pub_ip_addr_pre` and `PwrSaveIfs` as they are. -/
def init (maxEntries : Nat) (algPorts : List IpacmAlg) (pubIpAddrPre : UInt32)
    (pwrSaveIfs : List UInt32) (dev : δ) : NatApp κ δ where
  cache := List.replicate maxEntries {}
  temp := List.replicate maxTempEntries {}
  pubIpAddr := 0
  pubIpAddrPre := pubIpAddrPre
  natTableHdl := 0
  curCnt := 0
  algPorts := algPorts
  pwrSaveIfs := pwrSaveIfs
  dev := dev

def isAlgPort (a : NatApp κ δ) (proto : UInt8) (port : UInt16) : Bool :=
  a.algPorts.any fun alg => proto = alg.protocol ∧ port = alg.port

def isPwrSaveIf (a : NatApp κ δ) (ipAddr : UInt32) : Bool :=
  a.pwrSaveIfs.any fun ip => 0 ≠ ip ∧ ipAddr = ip

def chkForDup (a : NatApp κ δ) (rule : NatTableEntry κ) : Bool :=
  a.cache.any fun e => e.tuple = rule.tuple

/-- Empties the first slot of `PwrSaveIfs` with this address. -/
def clearPwrSaveIf (clientLanIp : UInt32) (a : NatApp κ δ) : NatApp κ δ :=
  { a with pwrSaveIfs := a.pwrSaveIfs.set (a.pwrSaveIfs.findIdx (· = clientLanIp)) 0 }

/-- A loop over the cache that treats the entries with `p`. -/
def forEntries (p : NatTableEntry κ → Bool)
    (f : NatTableEntry κ → δ × Int → NatTableEntry κ × δ × Int) (a : NatApp κ δ) : NatApp κ δ :=
  let (cache, dev, curCnt) :=
    forCells (fun e s => if p e then f e s else (e, s)) a.cache (a.dev, a.curCnt)
  { a with cache, dev, curCnt }

variable (drv : NatDriver δ)

/-- Adds a cached entry to the table, or drops it from the cache if the driver refuses. -/
def restoreEntry (natTableHdl : UInt32) (e : NatTableEntry κ) (s : δ × Int) :
    NatTableEntry κ × δ × Int :=
  let (ret, ruleHdl, dev) := drv.ipaNatAddIpv4Rule natTableHdl e.natRule e.ruleHdl s.1
  if ret < 0 then ({}, dev, s.2 - 1) else ({ e with ruleHdl, enabled := true }, dev, s.2)

/-- Takes the rule of an entry out of the table and keeps `off` of the entry. -/
def retireEntry (natTableHdl : UInt32) (off : NatTableEntry κ → NatTableEntry κ)
    (e : NatTableEntry κ) (s : δ × Int) : NatTableEntry κ × δ × Int :=
  let (ret, dev) := drv.ipaNatDelIpv4Rule natTableHdl e.ruleHdl s.1
  if ret < 0 then (e, dev, s.2) else (off e, dev, s.2)

/-- Takes an entry out of the table, if it is there, and out of the cache. -/
def dropEntry (natTableHdl : UInt32) (e : NatTableEntry κ) (s : δ × Int) :
    NatTableEntry κ × δ × Int :=
  if e.enabled then
    let (ret, dev) := drv.ipaNatDelIpv4Rule natTableHdl e.ruleHdl s.1
    if ret < 0 then (e, dev, s.2) else ({}, dev, s.2 - 1)
  else ({}, s.1, s.2 - 1)

def addTable (pubIp : UInt32) (a : NatApp κ δ) : Int × NatApp κ δ :=
  let (ret, natTableHdl, dev) :=
    drv.ipaNatAddIpv4Tbl pubIp a.cache.length a.natTableHdl a.dev
  let a := { a with natTableHdl, dev }
  if ret ≠ 0 then (ret, a)
  else
    let a := if pubIp = a.pubIpAddrPre then
        a.forEntries (fun e => e.privateIp ≠ 0) (restoreEntry drv natTableHdl)
      else a
    (0, { a with pubIpAddr := pubIp })

def reset (a : NatApp κ δ) : NatApp κ δ :=
  { a with
    natTableHdl := 0
    pubIpAddr := 0
    cache := a.cache.map fun e => { e with enabled := false } }

def deleteTable (pubIp : UInt32) (a : NatApp κ δ) : Int × NatApp κ δ :=
  if a.natTableHdl = 0 then (-1, a)
  else if a.pubIpAddr ≠ pubIp then (-1, a)
  else
    let (ret, dev) := drv.ipaNatDelIpv4Tbl a.natTableHdl a.dev
    if ret ≠ 0 then (ret, { a with dev })
    else (0, { a with dev, pubIpAddrPre := a.pubIpAddr }.reset)

/-- Delete the entry from the NAT table on connection close. -/
def deleteEntry (rule : NatTableEntry κ) (a : NatApp κ δ) : Int × NatApp κ δ :=
  let cnt := a.cache.findIdx fun e => e.tuple = rule.tuple
  match a.cache[cnt]? with
  | none => (0, a)
  | some e =>
    let dev := if e.enabled then (drv.ipaNatDelIpv4Rule a.natTableHdl e.ruleHdl a.dev).2 else a.dev
    (0, { a with cache := a.cache.set cnt {}, dev, curCnt := a.curCnt - 1 })

/-- Add a new entry to the NAT table on a new connection. -/
def addEntry (rule : NatTableEntry κ) (a : NatApp κ δ) : Int × NatApp κ δ :=
  if a.natTableHdl = 0 then (-1, a)
  else if a.isAlgPort rule.protocol rule.privatePort ∨ a.isAlgPort rule.protocol rule.targetPort then
    (-1, a)
  else if rule.isInvalid then (0, a)
  else if a.chkForDup rule then (-1, a)
  else
    let cnt := a.cache.findIdx NatTableEntry.isEmpty
    match a.cache[cnt]? with
    | none => (-1, a)
    | some e =>
      if a.isPwrSaveIf rule.privateIp ∨ a.isPwrSaveIf rule.targetIp then
        let e := { e with enabled := false, ruleHdl := 0 }
        (0, { a with cache := a.cache.set cnt (e.fill rule), curCnt := a.curCnt + 1 })
      else
        let (ret, ruleHdl, dev) :=
          drv.ipaNatAddIpv4Rule a.natTableHdl rule.natRule e.ruleHdl a.dev
        if ret < 0 then (-1, { a with cache := a.cache.set cnt { e with ruleHdl }, dev })
        else
          let e := { e with ruleHdl, enabled := true }
          (0, { a with cache := a.cache.set cnt (e.fill rule), dev, curCnt := a.curCnt + 1 })

def cacheEntry (rule : NatTableEntry κ) (a : NatApp κ δ) : NatApp κ δ :=
  if rule.isInvalid then a
  else if a.chkForDup rule then a
  else
    let cnt := a.cache.findIdx NatTableEntry.isEmpty
    match a.cache[cnt]? with
    | none => a
    | some e =>
      let e := { e with enabled := false, ruleHdl := 0, publicIp := rule.publicIp }
      { a with cache := a.cache.set cnt (e.fill rule), curCnt := a.curCnt + 1 }

/-- A client goes to sleep: its rules leave the table but stay cached. -/
def updatePwrSaveIf (clientLanIp : UInt32) (a : NatApp κ δ) : Int × NatApp κ δ :=
  if clientLanIp = 0 then (-1, a)
  else if a.pwrSaveIfs.any (· = clientLanIp) then (0, a)
  else
    let a := { a with
      pwrSaveIfs := a.pwrSaveIfs.set (a.pwrSaveIfs.findIdx (· = 0)) clientLanIp }
    (0, a.forEntries (fun e => e.privateIp = clientLanIp ∧ e.enabled = true)
      (retireEntry drv a.natTableHdl fun e => { e with enabled := false, ruleHdl := 0 }))

/-- A client wakes up: its cached rules go back to the table. -/
def resetPwrSaveIf (clientLanIp : UInt32) (a : NatApp κ δ) : Int × NatApp κ δ :=
  if clientLanIp = 0 then (-1, a)
  else
    let a := a.clearPwrSaveIf clientLanIp
    (-1, a.forEntries (fun e => e.privateIp = clientLanIp ∧ e.enabled = false)
      (restoreEntry drv a.natTableHdl))

def delEntriesOnClntDiscon (ipAddr : UInt32) (a : NatApp κ δ) : Int × NatApp κ δ :=
  if ipAddr = 0 then (-1, a)
  else
    let a := a.clearPwrSaveIf ipAddr
    (0, a.forEntries (fun e => e.privateIp = ipAddr ∧ e.enabled = true)
      (retireEntry drv a.natTableHdl fun e => { e with enabled := false }))

def delEntriesOnSTAClntDiscon (ipAddr : UInt32) (a : NatApp κ δ) : Int × NatApp κ δ :=
  if ipAddr = 0 then (-1, a)
  else
    (0, a.forEntries (fun e => e.targetIp = ipAddr) (dropEntry drv a.natTableHdl))

/-- Keeps a connection of an interface not known yet. -/
def addTempEntry (newEntry : NatTableEntry κ) (a : NatApp κ δ) : NatApp κ δ :=
  if a.isAlgPort newEntry.protocol newEntry.privatePort ∨
      a.isAlgPort newEntry.protocol newEntry.targetPort then a
  else if a.chkForDup newEntry then a
  else if a.temp.any fun e => e.tuple = newEntry.tuple then a
  else { a with
    temp := a.temp.set (a.temp.findIdx fun e => e.privateIp = 0 ∧ e.targetIp = 0) newEntry }

def deleteTempEntry (entry : NatTableEntry κ) (a : NatApp κ δ) : NatApp κ δ :=
  { a with temp := a.temp.set (a.temp.findIdx fun e => e.tuple = entry.tuple) {} }

/-- One turn of the loop over the temporary entries of an address. -/
def flushTempEntry (ipAddr : UInt32) (isAdd isDummy : Bool) (e : NatTableEntry κ)
    (a : NatApp κ δ) : NatTableEntry κ × NatApp κ δ :=
  if e.privateIp = ipAddr ∨ e.targetIp = ipAddr then
    if isAdd ∧ e.publicIp = a.pubIpAddr then
      -- to avoid DL exceptions for non IPA path
      let e := if isDummy then { e with privateIp := e.publicIp, privatePort := e.publicPort } else e
      let (ret, a) := addEntry drv e a
      if ret ≠ 0 then (e, a) else ({}, a)
    else ({}, a)
  else (e, a)

def flushTempEntries (ipAddr : UInt32) (isAdd isDummy : Bool) (a : NatApp κ δ) : NatApp κ δ :=
  let (temp, a) := forCells (flushTempEntry drv ipAddr isAdd isDummy) a.temp a
  { a with temp }

end NatApp

/-- The calls of the interface. -/
inductive NatAppOp (κ : Type u) where
  | addTable (pubIp : UInt32)
  | deleteTable (pubIp : UInt32)
  | addEntry (rule : NatTableEntry κ)
  | deleteEntry (rule : NatTableEntry κ)
  | cacheEntry (rule : NatTableEntry κ)
  | updatePwrSaveIf (clientLanIp : UInt32)
  | resetPwrSaveIf (clientLanIp : UInt32)
  | delEntriesOnClntDiscon (ipAddr : UInt32)
  | delEntriesOnSTAClntDiscon (ipAddr : UInt32)
  | addTempEntry (newEntry : NatTableEntry κ)
  | deleteTempEntry (entry : NatTableEntry κ)
  | flushTempEntries (ipAddr : UInt32) (isAdd isDummy : Bool)

def natAppStep {κ : Type u} {δ : Type v} (drv : NatDriver δ) (a : NatApp κ δ) :
    NatAppOp κ → NatApp κ δ
  | .addTable pubIp => (a.addTable drv pubIp).2
  | .deleteTable pubIp => (a.deleteTable drv pubIp).2
  | .addEntry rule => (a.addEntry drv rule).2
  | .deleteEntry rule => (a.deleteEntry drv rule).2
  | .cacheEntry rule => a.cacheEntry rule
  | .updatePwrSaveIf ip => (a.updatePwrSaveIf drv ip).2
  | .resetPwrSaveIf ip => (a.resetPwrSaveIf drv ip).2
  | .delEntriesOnClntDiscon ip => (a.delEntriesOnClntDiscon drv ip).2
  | .delEntriesOnSTAClntDiscon ip => (a.delEntriesOnSTAClntDiscon drv ip).2
  | .addTempEntry e => a.addTempEntry e
  | .deleteTempEntry e => a.deleteTempEntry e
  | .flushTempEntries ip isAdd isDummy => a.flushTempEntries drv ip isAdd isDummy

end DeviceHal.Ipacm
