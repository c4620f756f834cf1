import PcapdroidFormal.Firewall.Verdict
import PcapdroidFormal.Foundation.RecentUse

/-!
# The two LRU caches

`ip_lru.c` maps addresses to host names and `uid_lru.c` maps tuples to apps.  Both keep
their entries in a `uthash`, in the order of insertion, and delete and add an entry
again when it is found.  `ip_lru_add` looks for its key first; `uid_lru_add` does not,
and relies on `read_pkt` to have looked for it.
-/

namespace PcapdroidFormal.Core

open Foundation RecentUse

/-! ## ip_lru.c -/

namespace IpLru

def init (maxSize : Nat) : IpLru := ⟨maxSize, []⟩

def find (lru : IpLru) (ip : ZdtunIp) : Option Host := (lru.findEntry ip).1

def keys (lru : IpLru) : List ZdtunIp := lru.entries.map Prod.fst

def call (lru : IpLru) : CacheCall ZdtunIp Host → IpLru
  | .find ip => (lru.findEntry ip).2
  | .add ip host => lru.add ip host

def run (maxSize : Nat) (calls : List (CacheCall ZdtunIp Host)) : IpLru :=
  calls.foldl call (init maxSize)

/-- The cache has what the abstract map has after some uses. -/
def Follows (lru : IpLru) (maxSize : Nat) (history : List (Use ZdtunIp Host)) : Prop :=
  lru.maxSize = maxSize ∧ Caches maxSize history lru.entries

namespace Follows

variable {lru : IpLru} {maxSize : Nat} {history : List (Use ZdtunIp Host)} {ip : ZdtunIp}

variable (follows : lru.Follows maxSize history)
include follows

theorem findEntry_kept (isKept : ip ∈ kept maxSize history) :
    ∃ host, lastStored ip history = some host ∧
      lru.findEntry ip = (some host,
        { lru with entries := lru.entries.eraseP (fun entry => entry.1 == ip) ++ [(ip, host)] }) := by
  obtain ⟨host, here, stored⟩ := follows.2.find_of_kept isKept
  refine ⟨host, stored, ?_⟩
  rw [findEntry, here]

theorem findEntry_not_kept (notKept : ip ∉ kept maxSize history) :
    lru.findEntry ip = (none, lru) := by
  rw [findEntry, follows.2.find_of_not_kept notKept]

theorem add (ip : ZdtunIp) (host : Host) :
    (lru.add ip host).Follows maxSize (.stored ip host :: history) := by
  by_cases isKept : ip ∈ kept maxSize history
  · obtain ⟨before, _, found⟩ := follows.findEntry_kept isKept
    rw [IpLru.add, found]
    simp only [List.dropLast_concat]
    exact ⟨follows.1, follows.2.touch isKept rfl (if_pos rfl)⟩
  · rw [IpLru.add, follows.findEntry_not_kept isKept]
    simp only [follows.1]
    exact ⟨rfl, follows.2.insert isKept host⟩

/-- One call. -/
theorem call (call : CacheCall ZdtunIp Host) :
    (lru.call call).Follows maxSize (useCall maxSize history call) := by
  cases call with
  | add ip host => exact follows.add ip host
  | find ip =>
    by_cases isKept : ip ∈ kept maxSize history
    · obtain ⟨host, stored, found⟩ := follows.findEntry_kept isKept
      rw [IpLru.call, found, useCall, if_pos isKept]
      exact ⟨follows.1, follows.2.touch isKept rfl stored⟩
    · rw [IpLru.call, follows.findEntry_not_kept isKept, useCall, if_neg isKept]
      exact follows

theorem lruMap : IsLruMap maxSize history lru.keys lru.find := by
  refine follows.2.lruMap fun ip => ?_
  rw [find, findEntry]
  grind

end Follows

/-- All calls. -/
theorem run_follows (maxSize : Nat) (calls : List (CacheCall ZdtunIp Host)) :
    (run maxSize calls).Follows maxSize (uses maxSize calls) := by
  have start : (init maxSize).Follows maxSize [] := ⟨rfl, caches_nil maxSize⟩
  unfold run uses
  generalize init maxSize = lru at start ⊢
  generalize ([] : List (Use ZdtunIp Host)) = history at start ⊢
  induction calls generalizing lru history with
  | nil => exact start
  | cons call calls ih => exact ih _ _ (start.call call)

end IpLru

/-! ## uid_lru.c -/

/-- `uid_lru_t`: the entries in insertion order, the oldest first. -/
structure UidLru where
  maxSize : Nat
  entries : List (FiveTuple × Int)

namespace UidLru

def init (maxSize : Nat) : UidLru := ⟨maxSize, []⟩

/-- `uid_lru_find_entry`: a found entry becomes the most recent one. -/
def findEntry (lru : UidLru) (tuple : FiveTuple) : Option Int × UidLru :=
  match lru.entries.find? fun entry => entry.1 == tuple with
  | none => (none, lru)
  | some entry =>
    (some entry.2,
      { lru with entries := (lru.entries.eraseP fun entry => entry.1 == tuple) ++ [entry] })

def find (lru : UidLru) (tuple : FiveTuple) : Int × UidLru :=
  let found := lru.findEntry tuple
  (found.1.getD (-2), found.2)

def add (lru : UidLru) (tuple : FiveTuple) (uid : Int) : UidLru :=
  let entries := lru.entries ++ [(tuple, uid)]
  { lru with entries := if lru.maxSize < entries.length then entries.drop 1 else entries }

def keys (lru : UidLru) : List FiveTuple := lru.entries.map Prod.fst

/-- The app that `uid_lru_find` reports; -2 is for none. -/
def reported (lru : UidLru) (tuple : FiveTuple) : Option Int :=
  if (lru.find tuple).1 = -2 then none else some (lru.find tuple).1

def call (lru : UidLru) : CacheCall FiveTuple Int → UidLru
  | .find tuple => (lru.find tuple).2
  | .add tuple uid => lru.add tuple uid

def run (maxSize : Nat) (calls : List (CacheCall FiveTuple Int)) : UidLru :=
  calls.foldl call (init maxSize)

/-- The calls follow the discipline of `read_pkt`: a tuple is added right after the call that
did not find it, which is `missed`. -/
def Disciplined : UidLru → Option FiveTuple → List (CacheCall FiveTuple Int) → Prop
  | _, _, [] => True
  | lru, _, .find tuple :: calls =>
    Disciplined (lru.find tuple).2 (if (lru.find tuple).1 = -2 then some tuple else none) calls
  | lru, missed, .add tuple uid :: calls =>
    (missed = some tuple ∧ -1 ≤ uid) ∧ Disciplined (lru.add tuple uid) none calls

instance decidableDisciplined : ∀ (lru : UidLru) (missed : Option FiveTuple)
    (calls : List (CacheCall FiveTuple Int)), Decidable (Disciplined lru missed calls)
  | _, _, [] => isTrue trivial
  | lru, _, .find tuple :: calls =>
    decidableDisciplined (lru.find tuple).2
      (if (lru.find tuple).1 = -2 then some tuple else none) calls
  | lru, missed, .add tuple uid :: calls =>
    have := decidableDisciplined (lru.add tuple uid) none calls
    inferInstanceAs (Decidable ((missed = some tuple ∧ -1 ≤ uid) ∧ _))

/-- The cache has what the abstract map has after some uses, and not the tuple that was missed
last. -/
structure Follows (lru : UidLru) (maxSize : Nat) (history : List (Use FiveTuple Int))
    (missed : Option FiveTuple) : Prop where
  size : lru.maxSize = maxSize
  caches : Caches maxSize history lru.entries
  uids : ∀ entry ∈ lru.entries, -1 ≤ entry.2
  absent : ∀ tuple ∈ missed, tuple ∉ kept maxSize history

namespace Follows

variable {lru : UidLru} {maxSize : Nat} {history : List (Use FiveTuple Int)}
  {missed : Option FiveTuple} {tuple : FiveTuple}

variable (follows : lru.Follows maxSize history missed)
include follows

theorem find_kept (isKept : tuple ∈ kept maxSize history) :
    ∃ uid, lastStored tuple history = some uid ∧ (-1 ≤ uid) ∧
      lru.find tuple = (uid,
        { lru with
          entries := lru.entries.eraseP (fun entry => entry.1 == tuple) ++ [(tuple, uid)] }) := by
  obtain ⟨uid, here, stored⟩ := follows.caches.find_of_kept isKept
  refine ⟨uid, stored, follows.uids _ (List.mem_of_find?_eq_some here), ?_⟩
  rw [find, findEntry, here]
  rfl

theorem find_not_kept (notKept : tuple ∉ kept maxSize history) : lru.find tuple = (-2, lru) := by
  rw [find, findEntry, follows.caches.find_of_not_kept notKept]
  rfl

/-- -2 is returned for the tuples that are not kept, and for no other. -/
theorem find_eq_iff : (lru.find tuple).1 = -2 ↔ tuple ∉ kept maxSize history := by
  constructor
  · intro none isKept
    obtain ⟨uid, _, isUid, found⟩ := follows.find_kept isKept
    grind
  · intro notKept
    rw [follows.find_not_kept notKept]

theorem afterFind (tuple : FiveTuple) :
    (lru.find tuple).2.Follows maxSize (useCall maxSize history (.find tuple))
      (if (lru.find tuple).1 = -2 then some tuple else none) := by
  by_cases isKept : tuple ∈ kept maxSize history
  · rw [if_neg (mt follows.find_eq_iff.mp (not_not_intro isKept))]
    obtain ⟨uid, stored, isUid, found⟩ := follows.find_kept isKept
    rw [found, useCall, if_pos isKept]
    refine ⟨follows.size, follows.caches.touch isKept rfl stored, ?_, ?_⟩
    · intro entry member
      rcases List.mem_append.mp member with old | new
      · exact follows.uids entry (List.mem_of_mem_eraseP old)
      · grind
    · exact fun other absurd => by cases absurd
  · rw [if_pos (follows.find_eq_iff.mpr isKept), follows.find_not_kept isKept, useCall,
      if_neg isKept]
    refine ⟨follows.size, follows.caches, follows.uids, ?_⟩
    grind

theorem afterAdd {uid : Int} (isMissed : missed = some tuple) (isUid : -1 ≤ uid) :
    (lru.add tuple uid).Follows maxSize (.stored tuple uid :: history) none := by
  have inserted := follows.caches.insert (follows.absent tuple isMissed) uid
  have size := follows.size
  refine ⟨size, size ▸ inserted, ?_, fun other absurd => nomatch absurd⟩
  have uids : ∀ entry ∈ lru.entries ++ [(tuple, uid)], -1 ≤ entry.2 := by
    intro entry member
    rcases List.mem_append.mp member with old | new
    · exact follows.uids entry old
    · grind
  intro entry member
  rw [add] at member
  grind

theorem lruMap : IsLruMap maxSize history lru.keys lru.reported where
  distinct := follows.caches.distinct
  size := by
    rw [keys, List.length_map]
    exact follows.caches.length_le
  present tuple isKept := by
    obtain ⟨uid, stored, isUid, found⟩ := follows.find_kept isKept
    refine ⟨uid, stored, ?_⟩
    rw [reported, if_neg (mt follows.find_eq_iff.mp (not_not_intro isKept)), found]
  absent tuple notKept := by
    rw [reported, if_pos (follows.find_eq_iff.mpr notKept)]

end Follows

/-- All calls; `last` is the tuple that was missed by the last one. -/
theorem Follows.calls {lru : UidLru} {maxSize : Nat} {history : List (Use FiveTuple Int)}
    {missed : Option FiveTuple} (follows : lru.Follows maxSize history missed)
    {calls rest : List (CacheCall FiveTuple Int)}
    (disciplined : Disciplined lru missed (calls ++ rest)) :
    ∃ last, (calls.foldl call lru).Follows maxSize (calls.foldl (useCall maxSize) history) last ∧
      Disciplined (calls.foldl call lru) last rest := by
  induction calls generalizing lru history missed with
  | nil => exact ⟨missed, follows, disciplined⟩
  | cons first calls ih =>
    cases first with
    | find tuple => exact ih (follows.afterFind tuple) disciplined
    | add tuple uid =>
      obtain ⟨⟨isMissed, isUid⟩, disciplined⟩ := disciplined
      exact ih (follows.afterAdd isMissed isUid) disciplined

theorem init_follows (maxSize : Nat) : (init maxSize).Follows maxSize [] none where
  size := rfl
  caches := caches_nil maxSize
  uids _ member := absurd member List.not_mem_nil
  absent _ missed := nomatch missed

/-! ## read_pkt -/

/-- The calls of `read_pkt` for packets of some tuples, with the app that the netlink socket or
the resolver would return for each. -/
def readPkts : UidLru → List (FiveTuple × Int) → List (CacheCall FiveTuple Int)
  | _, [] => []
  | lru, (tuple, uid) :: packets =>
    let found := lru.find tuple
    if found.1 = -2 then
      .find tuple :: .add tuple uid :: readPkts (found.2.add tuple uid) packets
    else .find tuple :: readPkts found.2 packets

/-- `read_pkt` follows its discipline. -/
theorem readPkts_disciplined {packets : List (FiveTuple × Int)}
    (uids : ∀ packet ∈ packets, -1 ≤ packet.2) (lru : UidLru) (missed : Option FiveTuple) :
    Disciplined lru missed (readPkts lru packets) := by
  induction packets generalizing lru missed with
  | nil => trivial
  | cons packet packets ih =>
    obtain ⟨isUid, others⟩ := List.forall_mem_cons.mp uids
    rw [readPkts]
    split
    next absent => exact ⟨⟨if_pos absent, isUid⟩, ih others _ _⟩
    next => exact ih others _ _

/-- The app that `read_pkt` exports with a packet, and the cache behind it. -/
def readPkt (lru : UidLru) (packet : FiveTuple × Int) : Int × UidLru :=
  let found := lru.find packet.1
  if found.1 = -2 then (packet.2, found.2.add packet.1 packet.2) else found

def afterPkts (lru : UidLru) (packets : List (FiveTuple × Int)) : UidLru :=
  packets.foldl (fun lru packet => (lru.readPkt packet).2) lru

/-- One packet. -/
theorem readPkt_known (lru : UidLru) (packet : FiveTuple × Int) :
    (packet.1, (lru.readPkt packet).1) ∈ packet :: lru.entries ∧
      (lru.readPkt packet).2.entries ⊆ packet :: lru.entries := by
  have found : (lru.find packet.1).2.entries ⊆ lru.entries ∧
      ((lru.find packet.1).1 ≠ -2 → (packet.1, (lru.find packet.1).1) ∈ lru.entries) := by
    rw [find, findEntry]
    cases here : lru.entries.find? fun entry => entry.1 == packet.1 with
    | none => simp
    | some entry =>
      have member := List.mem_of_find?_eq_some here
      have same : entry.1 = packet.1 := by simpa using List.find?_some here
      rw [← same]
      refine ⟨List.append_subset.mpr ⟨List.eraseP_subset, ?_⟩, fun _ => member⟩
      simpa using member
  rw [readPkt]
  split
  next => grind [add]
  next hit => exact ⟨.tail _ (found.2 hit), List.subset_cons_of_subset _ found.1⟩

/-- All packets. -/
theorem afterPkts_known (lru : UidLru) (packets : List (FiveTuple × Int)) :
    (lru.afterPkts packets).entries ⊆ packets ++ lru.entries := by
  induction packets generalizing lru with
  | nil => exact List.Subset.refl _
  | cons packet packets ih =>
    refine List.Subset.trans (ih _) (List.append_subset.mpr ⟨?_, ?_⟩)
    · simp
    · exact List.Subset.trans (lru.readPkt_known packet).2 (by simp)

/-- A packet is exported with the app that was resolved for it or for an earlier packet of its
connection. -/
theorem packet_has_app_of_connection (maxSize : Nat) (earlier : List (FiveTuple × Int))
    (packet : FiveTuple × Int) :
    (packet.1, ((afterPkts (.init maxSize) earlier).readPkt packet).1) ∈ packet :: earlier := by
  have known := afterPkts_known (.init maxSize) earlier
  rw [init, List.append_nil] at known
  exact List.cons_subset_cons packet known (readPkt_known _ packet).1

end UidLru

/-! ## Both caches -/

/-- After any calls both caches are the abstract map, and an addition drops the key that was
used least recently if there are too many. -/
theorem lru_caches_refine_lru_map (maxSize : Nat) (positive : 0 < maxSize) :
    (∀ calls : List (CacheCall ZdtunIp Host),
      IsLruMap maxSize (uses maxSize calls) (IpLru.run maxSize calls).keys
          (IpLru.run maxSize calls).find ∧
        ∀ ip host, DropsEldest maxSize (uses maxSize calls) (IpLru.run maxSize calls).keys ip
          (IpLru.run maxSize (calls ++ [.add ip host])).keys) ∧
      ∀ calls : List (CacheCall FiveTuple Int),
        UidLru.Disciplined (.init maxSize) none calls →
          IsLruMap maxSize (uses maxSize calls) (UidLru.run maxSize calls).keys
              (UidLru.run maxSize calls).reported ∧
            ∀ tuple uid, UidLru.Disciplined (.init maxSize) none (calls ++ [.add tuple uid]) →
              DropsEldest maxSize (uses maxSize calls) (UidLru.run maxSize calls).keys tuple
                (UidLru.run maxSize (calls ++ [.add tuple uid])).keys := by
  constructor
  · intro calls
    have follows := IpLru.run_follows maxSize calls
    refine ⟨follows.lruMap, fun ip host => ?_⟩
    rw [IpLru.run, IpLru.run, List.foldl_concat]
    exact follows.2.dropsEldest positive (follows.add ip host).2
  · intro calls disciplined
    have start := UidLru.init_follows maxSize
    rw [← List.append_nil calls] at disciplined
    obtain ⟨last, follows, _⟩ := start.calls disciplined
    refine ⟨follows.lruMap, fun tuple uid disciplined => ?_⟩
    obtain ⟨missed, follows, ⟨isMissed, isUid⟩, _⟩ := start.calls disciplined
    rw [UidLru.run, UidLru.run, List.foldl_concat]
    exact follows.caches.dropsEldest positive (follows.afterAdd isMissed isUid).caches

/-- A lookup of the first of two addresses saves it from the third. -/
def hostCalls : List (CacheCall ZdtunIp Host) :=
  [.add 1 "a".toList, .add 2 "b".toList, .find 1, .add 3 "c".toList]

def tupleFrom (srcPort : UInt16) : FiveTuple := ⟨1, 2, srcPort, 53, 4, 17⟩

/-- The same with tuples. -/
def uidCalls : List (CacheCall FiveTuple Int) :=
  [.find (tupleFrom 1), .add (tupleFrom 1) 10, .find (tupleFrom 2), .add (tupleFrom 2) (-1),
    .find (tupleFrom 1), .find (tupleFrom 3)]

theorem second_entry_is_dropped :
    (IpLru.run 2 hostCalls).find 1 = some "a".toList ∧ (IpLru.run 2 hostCalls).find 2 = none ∧
      UidLru.Disciplined (.init 2) none uidCalls ∧
      (UidLru.run 2 uidCalls).reported (tupleFrom 2) = some (-1) ∧
      tupleFrom 2 ∉ (UidLru.run 2 (uidCalls ++ [.add (tupleFrom 3) 30])).keys := by
  obtain ⟨hosts, uids⟩ := lru_caches_refine_lru_map 2 (by decide)
  have disciplined : UidLru.Disciplined (.init 2) none uidCalls := by decide
  obtain ⟨host, stored, found⟩ := (hosts hostCalls).1.present 1 (by decide)
  obtain ⟨uid, storedUid, reported⟩ := (uids uidCalls disciplined).1.present (tupleFrom 2) (by decide)
  have added := (uids uidCalls disciplined).2 (tupleFrom 3) 30 (by decide)
  obtain ⟨eldest, isEldest, keys⟩ := added.full (by decide) (by decide)
  have isSecond : tupleFrom 2 = eldest := Option.some.inj (Eq.trans (by decide) isEldest)
  refine ⟨found.trans (stored.symm.trans (by decide)), (hosts hostCalls).1.absent 2 (by decide),
    disciplined, reported.trans (storedUid.symm.trans (by decide)), fun member => ?_⟩
  rcases (keys _).mp member with third | ⟨_, differ⟩
  · exact absurd third (by decide)
  · exact differ isSecond

/-! ## pd_new_connection -/

open PcapdroidFormal.Firewall

variable (tuple : FiveTuple) (uid : Int)

theorem resolveHost_info {pd : Pcapdroid} {id : ConnId} (fresh : (pd.conn id).info = none) :
    ((resolveHost pd tuple uid id).conn id).info = (pd.ipToHost.findEntry tuple.dstIp).1 := by
  rcases found : pd.ipToHost.findEntry tuple.dstIp with ⟨info, ipToHost⟩
  cases info with
  | none =>
    simp only [resolveHost, found]
    exact fresh
  | some host =>
    obtain ⟨mid, resolution, result⟩ := resolveHost_found pd tuple uid id found
    have own := resolution.conns id
    rw [Pcapdroid.setConn_conn_self] at own
    simp only [result, Pcapdroid.setConn_conn_self, checkBlacklistedDomain_eq]
    -- a connection of netd may be renamed on the way, but its host stays
    generalize mid.conn id = data at own ⊢
    cases own <;> rfl

/-- A new connection is given the name that was stored last for its address, if the address is
one of those that were used last. -/
theorem connection_has_name_stored_last (platform : Platform) (pd : Pcapdroid) (maxSize : Nat)
    (calls : List (CacheCall ZdtunIp Host)) :
    let pd := { pd with ipToHost := .run maxSize calls }
    let history := uses maxSize calls
    ((pdNewConnection platform pd tuple uid).1.conn pd.newConnId).info =
      if tuple.dstIp ∈ kept maxSize history then lastStored tuple.dstIp history else none := by
  intro pd history
  have follows : pd.ipToHost.Follows maxSize history := IpLru.run_follows maxSize calls
  have named : ((pdNewConnection platform pd tuple uid).1.conn pd.newConnId).info =
      (pd.ipToHost.findEntry tuple.dstIp).1 := by
    simp only [pdNewConnection, registerConnection_eq, decideConnection_eq,
      Pcapdroid.setConn_conn_self, decidedConn_eq]
    refine resolveHost_info tuple uid ?_
    rw [Pcapdroid.setConn_conn_self]
    rfl
  rw [named]
  split
  next isKept =>
    obtain ⟨host, stored, found⟩ := follows.findEntry_kept isKept
    rw [found, stored]
  next notKept => rw [follows.findEntry_not_kept notKept]

end PcapdroidFormal.Core
