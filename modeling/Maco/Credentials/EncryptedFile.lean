import Maco.Base.Map
import Maco.Base.Result

/-!
# The encrypted credential file

A mutating call reads the whole encrypted map, changes it in memory and replaces the file, and
nothing is locked in between. The file holds the map of the calls made one after the other as long
as every call still finds the map it has read when it replaces the file. The cryptography, base64
and JSON are crates of their own, of which only the round trips are assumed.
-/

namespace Maco.Credentials

open Maco.Base

/-- The decrypted secrets by key. -/
abbrev SecretMap : Type := BTreeMap String (List UInt8)

structure KdfParams where
  algorithm : String
  version : ℕ
  memoryKib : ℕ
  iterations : ℕ
  parallelism : ℕ
  outputLength : ℕ
deriving DecidableEq

/-- `KdfParams::current`. -/
def KdfParams.current : KdfParams := ⟨"argon2id", 0x13, 19 * 1024, 2, 1, 48⟩

structure Envelope where
  schemaVersion : ℕ
  kdf : KdfParams
  salt : String
  nonce : String
  keyCheck : String
  ciphertext : String
deriving DecidableEq

/-- The crates: Argon2id with the checks of its version and parameters, ChaCha20-Poly1305, base64,
and the JSON of maps and envelopes. -/
structure Crates where
  knownVersion : ℕ → Bool
  validParams : KdfParams → Bool
  hashPassword : KdfParams → List UInt8 → List UInt8 → Option (List UInt8)
  encrypt : List UInt8 → List UInt8 → List UInt8 → Option (List UInt8)
  decrypt : List UInt8 → List UInt8 → List UInt8 → Option (List UInt8)
  encode : List UInt8 → String
  decode : String → Option (List UInt8)
  mapToVec : SecretMap → Option (List UInt8)
  mapFromSlice : List UInt8 → Option SecretMap
  envelopeToVec : Envelope → Option (List UInt8)
  envelopeFromSlice : List UInt8 → Option Envelope
  probeFromSlice : List UInt8 → Option ℕ
  hashPassword_length : ∀ {kdf passphrase salt output},
    hashPassword kdf passphrase salt = some output → output.length = kdf.outputLength
  decrypts : ∀ {key nonce plaintext ciphertext}, encrypt key nonce plaintext = some ciphertext →
    decrypt key nonce ciphertext = some plaintext
  decodes : ∀ bytes, decode (encode bytes) = some bytes
  readsMap : ∀ {map bytes}, mapToVec map = some bytes → mapFromSlice bytes = some map
  readsEnvelope : ∀ {envelope bytes}, envelopeToVec envelope = some bytes →
    probeFromSlice bytes = some envelope.schemaVersion ∧ envelopeFromSlice bytes = some envelope

/-- The salt and the nonce that `encrypt_map` draws. -/
structure Draws where
  salt : List UInt8
  nonce : List UInt8
  nonce_length : nonce.length = 12

/-- A store at the path of the file. -/
structure EncryptedFileStore where
  crates : Crates
  path : String
  passphrase : Option (List UInt8)

/-- A mutating call. -/
inductive Request where
  | put (key : String) (secret : List UInt8)
  | delete (key : String)

/-- What a call makes of the map it has read. -/
def Request.apply (map : SecretMap) : Request → SecretMap
  | .put key secret => map.insert key secret
  | .delete key => map.erase key

namespace EncryptedFileStore

variable (store : EncryptedFileStore)

/-- The refusal of a file that cannot be read. -/
def corrupt : String :=
  "encrypted credential file at " ++ store.path ++
    " is corrupt or unreadable; it has not been rewritten"

def corruptKind (what : String) : String :=
  "encrypted credential file is corrupt (" ++ what ++ "); it has not been rewritten"

/-- `decode_exact`. -/
def decodeExact (value : String) (expected : ℕ) : Except String (List UInt8) := do
  let bytes ← require (store.crates.decode value) store.corrupt
  refuseIf (bytes.length ≠ expected) store.corrupt
  pure bytes

/-- `derive_with`: the key and the key check. -/
def deriveWith (kdf : KdfParams) (passphrase salt : List UInt8) :
    Except String (List UInt8 × List UInt8) := do
  refuseIf (kdf.algorithm ≠ "argon2id")
    ("encrypted credential file uses unrecognised KDF `" ++ kdf.algorithm ++ "`")
  refuseIf (1024 * 1024 < kdf.memoryKib ∨ 16 < kdf.iterations ∨ 16 < kdf.parallelism ∨
      64 < kdf.outputLength)
    "encrypted credential file names Argon2 parameters this build will not honour"
  refuseIf (store.crates.knownVersion kdf.version = false)
    "encrypted credential file names an Argon2 version this build does not understand"
  refuseIf (kdf.outputLength < 48) (corruptKind "KDF output length")
  refuseIf (store.crates.validParams kdf = false) (corruptKind "Argon2 parameters")
  let output ← require (store.crates.hashPassword kdf passphrase salt)
    "could not derive a key from the passphrase"
  pure (output.take 32, (output.drop 32).take 16)

/-- `decrypt_map`. -/
def decryptMap (bytes passphrase : List UInt8) : Except String SecretMap := do
  let schemaVersion ← require (store.crates.probeFromSlice bytes) store.corrupt
  refuseIf (1 < schemaVersion) ("encrypted credential file at " ++ store.path ++
    " has schema version " ++ toString schemaVersion ++
    ", which this build does not understand; refusing to read or write")
  let envelope ← require (store.crates.envelopeFromSlice bytes) store.corrupt
  refuseIf (envelope.schemaVersion < 1) store.corrupt
  let salt ← require (store.crates.decode envelope.salt) (corruptKind "salt")
  let derived ← store.deriveWith envelope.kdf passphrase salt
  let keyCheck ← store.decodeExact envelope.keyCheck 16
  refuseIf (derived.2 ≠ keyCheck)
    ("wrong passphrase for the encrypted credential file at " ++ store.path ++
      "; a forgotten passphrase cannot be recovered and the accounts must be re-added")
  let nonce ← store.decodeExact envelope.nonce 12
  let ciphertext ← require (store.crates.decode envelope.ciphertext) store.corrupt
  let plaintext ← require (store.crates.decrypt derived.1 nonce ciphertext)
    ("encrypted credential file at " ++ store.path ++
      " failed authentication and is treated as tampered or corrupt; it has not been rewritten")
  require (store.crates.mapFromSlice plaintext) store.corrupt

/-- `encrypt_map`. -/
def encryptMap (map : SecretMap) (passphrase : List UInt8) (draws : Draws) :
    Except String (List UInt8) := do
  let plaintext ← require (store.crates.mapToVec map) "could not serialise the credential map"
  let derived ← store.deriveWith .current passphrase draws.salt
  let ciphertext ← require (store.crates.encrypt derived.1 draws.nonce plaintext)
    "could not encrypt the credential file"
  let encode := store.crates.encode
  require (store.crates.envelopeToVec ⟨1, .current, encode draws.salt, encode draws.nonce,
    encode derived.2, encode ciphertext⟩) "could not serialise the credential envelope"

/-- The passphrase of an unlocked store. -/
def unlocked : Except String (List UInt8) :=
  require store.passphrase "encrypted-file store is locked: no passphrase has been provided"

/-- `load_map`. -/
def loadMap (file : Option (List UInt8)) : Except String SecretMap := do
  let passphrase ← store.unlocked
  match file with
  | none => pure ∅
  | some bytes => store.decryptMap bytes passphrase

/-- `save_map`: what the file is replaced by. -/
def saveMap (map : SecretMap) (draws : Draws) : Except String (List UInt8) := do
  store.encryptMap map (← store.unlocked) draws

/-- A call up to the map it changes; a delete without a file returns. -/
def begin (file : Option (List UInt8)) : Request → Except String (Option SecretMap)
  | .put _ _ => (store.loadMap file).map some
  | .delete _ => do
    let _ ← store.unlocked
    match file with
    | none => pure none
    | some _ => (store.loadMap file).map some

/-! ## Interleaved calls -/

/-- How far a call has come. -/
inductive Phase where
  | called
  | loaded (map : SecretMap)
  | returned

/-- The file and the calls on it: how far each has come, those that have returned in the order in
which they did, those that had returned when a call was made, and whether a call has replaced a map
other than the one it had read. -/
structure World where
  file : Option (List UInt8)
  phase : ℕ → Phase := fun _ => .called
  order : List ℕ := []
  before : ℕ → List ℕ := fun _ => []
  overwritten : Prop := False

/-- A call has begun. -/
def World.begun (world : World) (call : ℕ) (phase : Phase) : World :=
  { world with
    phase := Function.update world.phase call phase
    before := Function.update world.before call world.order }

/-- A call returns, with the file it leaves. -/
def World.return (world : World) (call : ℕ) (file : Option (List UInt8)) (overwritten : Prop) :
    World :=
  { world with
    file
    phase := Function.update world.phase call .returned
    order := world.order ++ [call]
    overwritten := world.overwritten ∨ overwritten }

variable (requests : ℕ → Request)

/-- What the calls of any stores with this passphrase lead to, each reading and replacing the file
in steps of its own. A call that is refused takes no further step. -/
inductive Reaches (file : Option (List UInt8)) : World → Prop where
  | opened : Reaches file { file }
  | loads (reached : Reaches file world) (called : world.phase call = .called)
    (read : store.begin world.file (requests call) = .ok (some map)) :
    Reaches file (world.begun call (.loaded map))
  | misses (reached : Reaches file world) (called : world.phase call = .called)
    (read : store.begin world.file (requests call) = .ok none) :
    Reaches file ((world.begun call .called).return call world.file False)
  | replaces (reached : Reaches file world) (held : world.phase call = .loaded map)
    (saved : store.saveMap ((requests call).apply map) draws = .ok bytes) :
    Reaches file (world.return call (some bytes) (store.loadMap world.file ≠ .ok map))

/-- The map of calls made one after the other. -/
def replay (start : SecretMap) (order : List ℕ) : SecretMap :=
  order.foldl (fun map call => (requests call).apply map) start

/-- The file holds the map of the returned calls made in some order in which every call comes after
those that had returned when it was made. -/
def Linearizable (start : SecretMap) (world : World) : Prop :=
  ∃ order : List ℕ, order.Nodup ∧ (∀ call, call ∈ order ↔ world.phase call = .returned) ∧
    (∀ call ∈ order, ∀ earlier ∈ world.before call, [earlier, call].Sublist order) ∧
      store.loadMap world.file = .ok (replay requests start order)

variable {store requests} {file : Option (List UInt8)} {world : World} {start map : SecretMap}
  {call : ℕ}

/-- A derived key check has its length. -/
theorem deriveWith_check {kdf : KdfParams} {passphrase salt : List UInt8}
    (derives : store.deriveWith kdf passphrase salt = .ok derived) :
    derived.2.length = 16 := by
  simp only [deriveWith, ok_iff, not_lt] at derives
  obtain ⟨-, -, -, long, -, output, hashed, rfl⟩ := derives
  have length := store.crates.hashPassword_length hashed
  simp only [List.length_take, List.length_drop]
  omega

/-- A saved map is loaded again. -/
theorem loadMap_saveMap (saved : store.saveMap map draws = .ok bytes) :
    store.loadMap (some bytes) = .ok map := by
  simp only [saveMap, encryptMap, ok_iff] at saved
  obtain ⟨passphrase, held, plaintext, printed, derived, derives, ciphertext, encrypted, written⟩ :=
    saved
  obtain ⟨probed, read⟩ := store.crates.readsEnvelope written
  simp only [loadMap, held, decryptMap, decodeExact, ok_iff, probed, read, store.crates.decodes,
    Option.some.injEq, exists_eq_left', not_lt, le_refl, not_not, true_and]
  exact ⟨passphrase, rfl, derived, derives, _, ⟨deriveWith_check derives, rfl⟩, rfl, _,
    ⟨draws.nonce_length, rfl⟩, plaintext, store.crates.decrypts encrypted,
    store.crates.readsMap printed⟩

/-- A call that returns at once is a delete without a file. -/
theorem begin_none (read : store.begin file request = .ok none) :
    store.loadMap file = .ok ∅ ∧ ∃ key, request = .delete key := by
  cases request with
  | put key secret => simp [begin, map_ok] at read
  | delete key =>
    simp only [begin, bind_ok] at read
    obtain ⟨_, unlocked, read⟩ := read
    cases file with
    | none => exact ⟨by simp [loadMap, unlocked], key, rfl⟩
    | some bytes => simp [map_ok] at read

/-! ## Runs -/

/-- The returned calls are listed once, in the order in which a call finds them when it is made. -/
structure Ordered (world : World) : Prop where
  nodup : world.order.Nodup
  mem : ∀ call, call ∈ world.order ↔ world.phase call = .returned
  begins : ∀ call, world.before call <+: world.order
  before : ∀ call, call ∉ world.before call

/-- A returned call follows those that had returned when it was made. -/
theorem Ordered.follows (ordered : Ordered world) (member : call ∈ world.order)
    (noted : earlier ∈ world.before call) : [earlier, call].Sublist world.order := by
  obtain ⟨later, split⟩ := ordered.begins call
  rw [← split] at member ⊢
  have after := (List.mem_append.mp member).resolve_left (ordered.before call)
  exact (List.singleton_sublist.mpr noted).append (List.singleton_sublist.mpr after)

/-- The calls stay ordered when one of them begins. -/
theorem Ordered.begun (ordered : Ordered world)
    (called : world.phase call = .called) (unfinished : phase ≠ .returned) :
    Ordered (world.begun call phase) := by
  have running : call ∉ world.order := by simp [ordered.mem, called]
  refine ⟨ordered.nodup, fun other => ?_, fun other => ?_, fun other => ?_⟩ <;>
    by_cases same : other = call
  · simp [World.begun, same, running, unfinished]
  · simp [World.begun, same, ordered.mem]
  · simp [World.begun, same]
  · simp [World.begun, same, ordered.begins other]
  · simp [World.begun, same, running]
  · simp [World.begun, same, ordered.before other]

/-- The calls stay ordered when one of them returns. -/
theorem Ordered.return (ordered : Ordered world) {overwritten : Prop}
    (running : world.phase call ≠ .returned) : Ordered (world.return call file overwritten) where
  nodup := by
    have new : call ∉ world.order := mt (ordered.mem call).mp running
    simpa [World.return, List.nodup_append, ordered.nodup] using
      fun other member => ne_of_mem_of_not_mem member new
  mem other := by
    by_cases same : other = call
    · simp [World.return, same]
    · simp [World.return, same, ordered.mem]
  begins other := (ordered.begins other).trans (List.prefix_append _ _)
  before := ordered.before

theorem replay_append (order : List ℕ) : replay requests start (order ++ [call]) =
    (requests call).apply (replay requests start order) := by
  rw [replay, List.foldl_append]
  rfl

section Runs

variable (reached : Reaches store requests file world) (opened : store.loadMap file = .ok start)

include reached

/-- The calls of a run are ordered. -/
theorem Reaches.ordered : Ordered world := by
  induction reached with
  | opened => exact ⟨by simp, by simp, by simp, by simp⟩
  | loads reached called read ih => exact ih.begun called (by simp)
  | misses reached called read ih =>
    exact (ih.begun called (by simp)).return (by simp [World.begun])
  | replaces reached held saved ih => exact ih.return (by simp [held])

include opened

/-- As long as no map is overwritten unread, the file holds the map of the calls in their order. -/
theorem Reaches.stored (intact : ¬ world.overwritten) :
    store.loadMap world.file = .ok (replay requests start world.order) := by
  induction reached with
  | opened => exact opened
  | loads reached called read ih => exact ih intact
  | @misses world call reached called read ih =>
    obtain ⟨empty, key, request⟩ := begin_none read
    have same := Except.ok.inj (empty.symm.trans (ih (not_or.mp intact).1))
    change store.loadMap world.file = .ok (replay requests start (world.order ++ [call]))
    rw [replay_append, ← same, request, empty]
    simp [Request.apply]
  | @replaces world call map _ _ reached held saved ih =>
    obtain ⟨earlier, fresh⟩ := not_or.mp intact
    have same := (not_not.mp fresh).symm.trans (ih earlier)
    change _ = Except.ok (replay requests start (world.order ++ [call]))
    rw [replay_append, ← Except.ok.inj same]
    exact loadMap_saveMap saved

end Runs

/-- The stored map is that of the returned calls, made in an order compatible with their real time,
in every run in which no call replaces a map other than the one it has read. -/
theorem calls_linearizable (reached : Reaches store requests file world)
    (opened : store.loadMap file = .ok start) (intact : ¬ world.overwritten) :
    Linearizable store requests start world := by
  have ordered := reached.ordered
  exact ⟨world.order, ordered.nodup, ordered.mem, fun _ member _ => ordered.follows member,
    reached.stored opened intact⟩

/-! ## Samples

Crates that encrypt nothing and print the maps of empty secrets under keys of one character.
-/

/-- The text of some bytes. -/
def plainText (bytes : List UInt8) : String := String.ofList (bytes.map (Char.ofNat ·.toNat))

/-- The bytes of a text. -/
def plainBytes (text : String) : List UInt8 := text.toList.map (UInt8.ofNat ·.toNat)

theorem plainBytes_plainText (bytes : List UInt8) : plainBytes (plainText bytes) = bytes := by
  have each : ∀ byte : UInt8, UInt8.ofNat (Char.ofNat byte.toNat).toNat = byte := by
    decide +kernel
  simp [plainBytes, plainText, Function.comp_def, each]

/-- The entries of a map of empty secrets. -/
def plainEntries (keys : List UInt8) : List (String × List UInt8) :=
  keys.map fun key => (plainText [key], [])

/-- The envelope of a ciphertext. -/
def plainEnvelope (ciphertext : List UInt8) : Envelope :=
  let zeros count := plainText (.replicate count 0)
  ⟨1, .current, zeros 16, zeros 12, zeros 16, plainText ciphertext⟩

/-- The crates of the samples. -/
def plainCrates : Crates where
  knownVersion _ := true
  validParams _ := true
  hashPassword kdf _ _ := some (.replicate kdf.outputLength 0)
  encrypt _ _ plaintext := some plaintext
  decrypt _ _ ciphertext := some ciphertext
  encode := plainText
  decode text := some (plainBytes text)
  mapToVec map :=
    let keys := map.toList.flatMap fun entry => plainBytes entry.1
    if map.toList = plainEntries keys then some keys else none
  mapFromSlice keys := some (.ofList (plainEntries keys))
  envelopeToVec envelope :=
    let ciphertext := plainBytes envelope.ciphertext
    if envelope = plainEnvelope ciphertext then some ciphertext else none
  envelopeFromSlice ciphertext := some (plainEnvelope ciphertext)
  probeFromSlice _ := some 1
  hashPassword_length := by
    rintro _ _ _ _ ⟨⟩
    exact List.length_replicate
  decrypts := fun same => same.symm
  decodes := by simp [plainBytes_plainText]
  readsMap := by
    intro map bytes printed
    obtain ⟨same, keys⟩ := Option.ite_none_right_eq_some.mp printed
    rw [← Option.some.inj keys, ← same, BTreeMap.ofList_toList]
  readsEnvelope := by
    intro envelope bytes printed
    obtain ⟨same, ciphertext⟩ := Option.ite_none_right_eq_some.mp printed
    rw [← Option.some.inj ciphertext, ← same]
    exact ⟨by rw [same]; rfl, rfl⟩

/-- The store of the samples. -/
def plainStore : EncryptedFileStore := ⟨plainCrates, "credentials.enc.json", some []⟩

/-- A put, a delete of a key that is not stored, and puts of another key. -/
def sampleRequests : ℕ → Request
  | 0 => .put "a" []
  | 1 => .delete "b"
  | _ => .put "c" []

/-- A call that has read a map replaces the file, if the map it makes is printed. -/
theorem reaches_replaced (call : ℕ) (map : SecretMap) {world : World}
    (reached : Reaches plainStore sampleRequests none world)
    (held : world.phase call = .loaded map)
    (prints : (plainStore.saveMap ((sampleRequests call).apply map)
      ⟨.replicate 16 0, .replicate 12 0, rfl⟩).isOk = true) :
    ∃ bytes, Reaches plainStore sampleRequests none
        (world.return call (some bytes) (plainStore.loadMap world.file ≠ .ok map)) ∧
      plainStore.loadMap (some bytes) = .ok ((sampleRequests call).apply map) := by
  obtain ⟨bytes, saved⟩ | ⟨refusal, refused⟩ := ok_or_error (plainStore.saveMap _ _)
  · exact ⟨bytes, reached.replaces held saved, loadMap_saveMap saved⟩
  · rw [refused] at prints
    cases prints

/-- The first put has read the missing file. -/
theorem reaches_loaded : Reaches plainStore sampleRequests none
    (World.begun { file := none } 0 (.loaded ∅)) :=
  .loads .opened rfl rfl

/-- A delete and a put that have both read the map of an earlier put. The delete replaces it by the
same map, which the put still finds. -/
theorem calls_linearizable_interleaved : ∃ world, Reaches plainStore sampleRequests none world ∧
    world.order = [0, 1, 2] ∧ world.before 1 = [0] ∧ world.before 2 = [0] ∧
      Linearizable plainStore sampleRequests ∅ world := by
  let stored : SecretMap := (∅ : SecretMap).insert "a" []
  obtain ⟨first, reached, read⟩ := reaches_replaced 0 ∅ reaches_loaded rfl (by decide +kernel)
  have deleting : plainStore.begin (some first) (sampleRequests 1) = .ok (some stored) :=
    map_ok.mpr ⟨_, read, rfl⟩
  have putting : plainStore.begin (some first) (sampleRequests 2) = .ok (some stored) :=
    map_ok.mpr ⟨_, read, rfl⟩
  obtain ⟨second, reached, kept⟩ := reaches_replaced 1 stored
    ((reached.loads rfl deleting).loads rfl putting) rfl (by decide +kernel)
  obtain ⟨third, reached, -⟩ := reaches_replaced 2 stored reached rfl (by decide +kernel)
  refine ⟨_, reached, rfl, rfl, rfl, calls_linearizable reached rfl ?_⟩
  rintro (((lost | missing) | other) | other)
  · exact lost
  · exact missing rfl
  · exact other read
  · refine other (kept.trans (congrArg _ (BTreeMap.ext_get fun key => ?_)))
    simp only [sampleRequests, Request.apply, stored, BTreeMap.get_erase, BTreeMap.get_insert,
      BTreeMap.get_empty]
    split
    · rename_i absent
      simp [← absent]
    · rfl

/-- Two puts that both read before either replaces the file lose the secret of the first. -/
theorem concurrent_puts_lose_secret : ∃ world, Reaches plainStore sampleRequests none world ∧
    world.order = [0, 2] ∧ ¬ Linearizable plainStore sampleRequests ∅ world := by
  have loaded : Reaches plainStore sampleRequests none
      ((World.begun { file := none } 0 (.loaded ∅)).begun 2 (.loaded ∅)) :=
    reaches_loaded.loads rfl rfl
  obtain ⟨first, reached, -⟩ := reaches_replaced 0 ∅ loaded rfl (by decide +kernel)
  obtain ⟨second, reached, read⟩ := reaches_replaced 2 ∅ reached rfl (by decide +kernel)
  refine ⟨_, reached, rfl, ?_⟩
  rintro ⟨order, nodup, returned, -, found⟩
  have perm : order.Perm [0, 2] := by
    rw [List.perm_ext_iff_of_nodup nodup (by decide)]
    exact fun call => (returned call).trans (reached.ordered.mem call).symm
  have same := congrArg (·["a"]?) (Except.ok.inj (found.symm.trans read))
  rcases List.perm_pair.mp perm with rfl | rfl
  · revert same
    decide +kernel
  · revert same
    decide +kernel

end EncryptedFileStore

end Maco.Credentials
