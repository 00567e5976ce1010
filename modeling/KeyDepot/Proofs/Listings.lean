import KeyDepot.Proofs.FrameSize
import KeyDepot.Proofs.KeyedTalk
import KeyDepot.Proofs.MapDatabase
import KeyDepot.Proofs.RegionRow

namespace KeyDepot

open Bulk

/-- A listing of the entries after `start` whose keys begin with `stem`. -/
inductive Listing where
  | keys (start stem : Bytes)
  /-- The keys with their values. -/
  | pairs (start stem : Bytes)
  deriving DecidableEq, Repr, Inhabited

namespace Listing

/-- The listing as a client makes it on the database with this number. -/
@[reducible] def on (id : DatabaseId) (slots : Slots) : Listing → Call
  | keys start stem => .listKeys id start stem slots.keys
  | pairs start stem => .listPairs id start stem slots.keys slots.values

/-- There are slots for values when values are listed, and then as many as for keys. -/
def Suits (slots : Slots) : Listing → Prop
  | keys .. => slots.values = []
  | pairs .. => slots.values.length = slots.keys.length

theorem Suits.of_length {listing : Listing} {slots others : Slots} (suits : listing.Suits slots)
    (keys : others.keys.length = slots.keys.length)
    (values : others.values.length = slots.values.length) : listing.Suits others := by
  cases listing with
  | keys start stem =>
    have none : slots.values = [] := suits
    rw [none] at values
    exact List.eq_nil_of_length_eq_zero values
  | pairs start stem => exact values.trans (suits.trans keys.symm)

/-- What a listing returned, and its slots after it. -/
def result {id : DatabaseId} {slots : Slots} :
    (listing : Listing) → Returned (listing.on id slots) → Except Error Nat × Slots
  | keys .., returned => (returned.outcome, returned.slots)
  | pairs .., returned => (returned.outcome, returned.slots)

/-- The listing of at most `count` entries, made on the database itself. -/
def direct {σ : Type} [Engine σ] (count : Nat) (db : Database σ) :
    Listing → Outcome (Database σ) Slots
  | keys start stem =>
    let (found, db) := db.perform (.listKeys start count stem)
    (found.map fun keys => { keys }, db)
  | pairs start stem =>
    let (found, db) := db.perform (.listPairs start count stem)
    (found.map Slots.ofEntries, db)

theorem used {listing : Listing} {slots : Slots} (suits : listing.Suits slots)
    (id : DatabaseId) : (listing.on id slots).misuse? = none := by
  cases listing with
  | keys start stem => rfl
  | pairs start stem => exact if_pos suits.symm

end Listing

/-- The items of a listing of keys. -/
abbrev Slots.ofKeys (keys : List Bytes) : Slots := { keys }

namespace Server

/-- What follows on the keys for a listing, by whether they fit. -/
theorem sendKeys_eq {slots : List Bytes} (counted : (Slots.ofKeys slots).Counted) (build : Build)
    (number : Nat) (keySizes : Descriptor) (items : List Bytes) :
    sendKeys build (slotRegion number slots) keySizes items =
      Phase.proceed .listKeys
        (.listed (if (Slots.ofKeys items).Fit (.ofKeys slots) then .ok else .truncated)
          (UInt64.ofNat items.length))
        (Transfer.lengths build keySizes items ++
          if (Slots.ofKeys items).Fit (.ofKeys slots) then
            Transfer.slots (slotRegion number slots) items else []) := by
  have told : (exceedsSlots items (slotRegion number slots).sizes || false) =
    !decide ((Slots.ofKeys items).Fit (.ofKeys slots)) :=
    Slots.exceedsSlots_eq counted (.ofKeys items)
  rw [Bool.or_false] at told
  by_cases fit : (Slots.ofKeys items).Fit (.ofKeys slots) <;>
    simp [sendKeys, told, Reply.ofList, fit]

/-- What follows on the entries for a listing with values, by whether they fit. -/
theorem sendPairs_eq {slots : Slots} (counted : slots.Counted) (build : Build)
    (number valueNumber : Nat) (keySizes valueSizes : Descriptor) (entries : List Entry) :
    sendPairs build (slotRegion number slots.keys) keySizes (slotRegion valueNumber slots.values)
        valueSizes entries =
      Phase.proceed .listPairs
        (.listed (if (Slots.ofEntries entries).Fit slots then .ok else .truncated)
          (UInt64.ofNat (Slots.ofEntries entries).keys.length))
        (Transfer.lengths build keySizes (Slots.ofEntries entries).keys ++
          Transfer.lengths build valueSizes (Slots.ofEntries entries).values ++
          if (Slots.ofEntries entries).Fit slots then
            Transfer.slots (slotRegion number slots.keys) (Slots.ofEntries entries).keys ++
              Transfer.slots (slotRegion valueNumber slots.values) (Slots.ofEntries entries).values
          else []) := by
  have told : (exceedsSlots (entries.map Entry.key) (slotRegion number slots.keys).sizes ||
      exceedsSlots (entries.map Entry.value) (slotRegion valueNumber slots.values).sizes) =
    !decide ((Slots.ofEntries entries).Fit slots) :=
    Slots.exceedsSlots_eq counted (.ofEntries entries)
  have keys : (Slots.ofEntries entries).keys = entries.map Entry.key := rfl
  have values : (Slots.ofEntries entries).values = entries.map Entry.value := rfl
  simp only [sendPairs, told, Reply.ofList]
  by_cases fit : (Slots.ofEntries entries).Fit slots <;> simp [fit, keys, values]

end Server

namespace Regions.Row

variable {first : Nat} {regions : Regions}

/-- What a listing of keys transfers is accepted, and this is where it goes. -/
theorem accept_keys {items slots : List Bytes}
    (row : regions.Row first [blanks slots, [Bytes.zeros (slots.length * lengthWidth)]])
    (build : Build) (few : slots.length < 2 ^ 32) (within : items.length ≤ slots.length) :
    ∃ after, regions.accept?
      (Transfer.lengths build (lengthRegion (first + 1) slots.length) items ++
        if (Slots.ofKeys items).Fit (.ofKeys slots) then
          Transfer.slots (slotRegion (first + 0) slots) items else []) = some after ∧
      after.Row first
        [if (Slots.ofKeys items).Fit (.ofKeys slots) then overlay items (blanks slots)
          else blanks slots,
          [(Bytes.zeros (slots.length * lengthWidth)).overwrite (packLengths items)]] := by
  have wide : slots.length * lengthWidth < 2 ^ 64 := by
    simp only [lengthWidth]
    omega
  obtain ⟨sized, packed, row⟩ := row.accept_lengths build 1 (by simp) rfl within wide
  rw [accept?_append, packed, Option.bind_some]
  by_cases fit : (Slots.ofKeys items).Fit (.ofKeys slots)
  · simp only [if_pos fit]
    exact row.accept_slots 0 (by simp) rfl fit.1 within (by omega)
  · simp only [if_neg fit]
    exact ⟨sized, rfl, row⟩

/-- What a listing of keys with their values transfers is accepted, and this is where it goes. -/
theorem accept_pairs {items slots : Slots}
    (row : regions.Row first [blanks slots.keys,
      [Bytes.zeros (slots.keys.length * lengthWidth)], blanks slots.values,
      [Bytes.zeros (slots.values.length * lengthWidth)]])
    (build : Build) (few : slots.keys.length < 2 ^ 32) (fewValues : slots.values.length < 2 ^ 32)
    (within : items.Within slots) :
    ∃ after, regions.accept?
        (Transfer.lengths build (lengthRegion (first + 1) slots.keys.length) items.keys ++
          Transfer.lengths build (lengthRegion (first + 3) slots.values.length) items.values ++
          if items.Fit slots then
            Transfer.slots (slotRegion (first + 0) slots.keys) items.keys ++
              Transfer.slots (slotRegion (first + 2) slots.values) items.values
          else []) = some after ∧
      after.Row first
        [if items.Fit slots then overlay items.keys (blanks slots.keys) else blanks slots.keys,
          [(Bytes.zeros (slots.keys.length * lengthWidth)).overwrite (packLengths items.keys)],
          if items.Fit slots then overlay items.values (blanks slots.values)
          else blanks slots.values,
          [(Bytes.zeros (slots.values.length * lengthWidth)).overwrite
            (packLengths items.values)]] := by
  obtain ⟨keysWithin, valuesWithin⟩ := within
  have wide : slots.keys.length * lengthWidth < 2 ^ 64 := by
    simp only [lengthWidth]
    omega
  have valuesWide : slots.values.length * lengthWidth < 2 ^ 64 := by
    simp only [lengthWidth]
    omega
  obtain ⟨keysSized, packed, row⟩ := row.accept_lengths build 1 (by simp) rfl keysWithin wide
  obtain ⟨sized, valuesPacked, row⟩ :=
    row.accept_lengths build 3 (by simp) rfl valuesWithin valuesWide
  simp only [accept?_append, packed, valuesPacked, Option.bind_some]
  by_cases fit : items.Fit slots
  · obtain ⟨keysFilled, filled, row⟩ :=
      row.accept_slots 0 (by simp) rfl fit.1 keysWithin (by omega)
    obtain ⟨after, valuesFilled, row⟩ :=
      row.accept_slots 2 (by simp) rfl fit.2 valuesWithin (by omega)
    simp only [if_pos fit, accept?_append, filled, Option.bind_some]
    exact ⟨after, valuesFilled, row⟩
  · simp only [if_neg fit]
    exact ⟨sized, rfl, row⟩

end Regions.Row

namespace Caller

section Courses

variable {σ : Type} [Engine σ] {target : UInt8} {id : DatabaseId} {caller : Caller}
  {server : Server σ} {db : Database σ}

/-- A listing of keys has a course, and its reply is read as the items in the slots. -/
theorem listKeys_goes (found : server.database? target id = some db)
    (clear : caller.client.regions.ids = []) {start stem : Bytes} {slots items : List Bytes}
    (performed : (db.perform (.listKeys start slots.length stem)).1 = .ok items)
    (few : slots.length < 2 ^ 32) (within : (Slots.ofKeys items).Within (.ofKeys slots))
    (held : (Slots.ofKeys slots).Held) (counts : (Slots.ofKeys items).Counted) :
    ∃ frames reply grants,
      caller.Goes target id (.listKeys id start stem slots) server frames reply grants
        (db.perform (.listKeys start slots.length stem)).2 ∧
      Call.readListing (.ofKeys slots) ((grants.map Grant.contents).getD 0 [])
          ((grants.map Grant.contents).getD 1 []) [] [] reply =
        .ok ((Slots.ofKeys items).receive (.ofKeys slots)) := by
  obtain ⟨_, client, staged⟩ := caller.client.stage_listKeys_of_held held id start stem
  obtain ⟨rfl, rows⟩ := Client.staged_listKeys clear staged
  generalize caller.client.regions.next = first at staged rows
  have limit : min (UInt64.ofNat slots.length).toNat (slotRegion (first + 0) slots).count =
      slots.length := by
    rw [UInt64.toNat_ofNat_of_lt' (Nat.lt_trans few (by decide))]
    simp [slotRegion, Descriptor.count]
  let send (build : Build) := Server.sendKeys build (slotRegion (first + 0) slots)
    (lengthRegion (first + 1) slots.length)
  have begins (counted : Server σ) (continues : server.Continues counted) :
      counted.begin target id (.listKeys id start stem
        (UInt64.ofNat slots.length) (slotRegion (first + 0) slots)
        (lengthRegion (first + 1) slots.length)) =
      counted.runFor target id .listKeys (.listKeys start slots.length stem)
        (send server.build) := by
    rw [← continues.build]
    exact congrArg (fun count => counted.runFor target id .listKeys (.listKeys start count stem)
      (send counted.build)) limit
  obtain ⟨final, accepted, row⟩ := rows.row.accept_keys server.build few within.1
  refine ⟨_, _, Regions.grants first _, goes_operation found _ staged rows.settings
    (Regions.nodup_grants first (by simp)) rfl begins performed _
    (Server.sendKeys_eq held.counted _ _ _ items) accepted row.held_grants row.only_grants, ?_⟩
  have lengths := unpackLengths_overwrite counts.words.1 within.1
  have small : items.length < 2 ^ 64 :=
    Nat.lt_of_le_of_lt within.1 (Nat.lt_trans few (by decide))
  rw [Regions.contents_grants]
  simpa using @Slots.readListing_receive (.ofKeys items) (.ofKeys slots) [_] [] small counts within
    lengths (unpackLengths_nil _)

/-- A listing of keys with their values has a course, and its reply is read as the items in the
slots. -/
theorem listPairs_goes (found : server.database? target id = some db)
    (clear : caller.client.regions.ids = []) {start stem : Bytes} {slots : Slots}
    (suits : slots.values.length = slots.keys.length) {entries : List Entry}
    (performed : (db.perform (.listPairs start slots.keys.length stem)).1 = .ok entries)
    (few : slots.keys.length < 2 ^ 32) (within : (Slots.ofEntries entries).Within slots)
    (held : slots.Held) (counts : (Slots.ofEntries entries).Counted) :
    ∃ frames reply grants,
      caller.Goes target id (.listPairs id start stem slots.keys slots.values) server frames reply
        grants (db.perform (.listPairs start slots.keys.length stem)).2 ∧
      Call.readListing slots ((grants.map Grant.contents).getD 0 [])
          ((grants.map Grant.contents).getD 1 []) ((grants.map Grant.contents).getD 2 [])
          ((grants.map Grant.contents).getD 3 []) reply =
        .ok ((Slots.ofEntries entries).receive slots) := by
  obtain ⟨_, client, staged⟩ := caller.client.stage_listPairs_of_held held id start stem
  obtain ⟨rfl, rows⟩ := Client.staged_listPairs clear staged
  generalize caller.client.regions.next = first at staged rows
  have limit : min (min (UInt64.ofNat slots.keys.length).toNat
      (slotRegion (first + 0) slots.keys).count) (slotRegion (first + 2) slots.values).count =
        slots.keys.length := by
    rw [UInt64.toNat_ofNat_of_lt' (Nat.lt_trans few (by decide))]
    simp [slotRegion, Descriptor.count, suits]
  let send (build : Build) := Server.sendPairs build (slotRegion (first + 0) slots.keys)
    (lengthRegion (first + 1) slots.keys.length) (slotRegion (first + 2) slots.values)
    (lengthRegion (first + 3) slots.values.length)
  have begins (counted : Server σ) (continues : server.Continues counted) :
      counted.begin target id (.listPairs id start stem
        (UInt64.ofNat slots.keys.length) (slotRegion (first + 0) slots.keys)
        (lengthRegion (first + 1) slots.keys.length) (slotRegion (first + 2) slots.values)
        (lengthRegion (first + 3) slots.values.length)) =
      counted.runFor target id .listPairs (.listPairs start slots.keys.length stem)
        (send server.build) := by
    rw [← continues.build]
    exact congrArg (fun count => counted.runFor target id .listPairs (.listPairs start count stem)
      (send counted.build)) limit
  obtain ⟨final, accepted, row⟩ := rows.row.accept_pairs server.build few (by rwa [suits]) within
  refine ⟨_, _, Regions.grants first _, goes_operation found _ staged rows.settings
    (Regions.nodup_grants first (by simp)) rfl begins performed _
    (Server.sendPairs_eq held.counted _ _ _ _ _ entries) accepted row.held_grants
    row.only_grants, ?_⟩
  have values : (Slots.ofEntries entries).values.length =
      (Slots.ofEntries entries).keys.length := by
    simp [Slots.ofEntries]
  have lengths := unpackLengths_overwrite counts.words.1 within.1
  have valueLengths := unpackLengths_overwrite counts.words.2 within.2
  rw [values] at valueLengths
  have small : (Slots.ofEntries entries).keys.length < 2 ^ 64 :=
    Nat.lt_of_le_of_lt within.1 (by omega)
  rw [Regions.contents_grants]
  exact Slots.readListing_receive small counts within lengths valueLengths

/-- A listing has a course, and its reply is read as the items in the slots. -/
theorem listing_goes (found : server.database? target id = some db)
    (clear : caller.client.regions.ids = []) (listing : Listing) {slots items : Slots}
    (suits : listing.Suits slots) (direct : (listing.direct slots.keys.length db).1 = .ok items)
    (few : slots.keys.length < 2 ^ 32) (within : items.Within slots) (held : slots.Held)
    (counts : items.Counted) :
    ∃ frames reply grants,
      caller.Goes target id (listing.on id slots) server frames reply grants
        (listing.direct slots.keys.length db).2 ∧
      ∃ returned, (listing.on id slots).readReply (grants.map Grant.contents) reply =
          .ok returned ∧ listing.result returned = items.receive slots := by
  cases listing with
  | keys start stem =>
    obtain ⟨slots, values⟩ := slots
    obtain rfl : values = [] := suits
    cases performed : (db.perform (.listKeys start slots.length stem)).1 with
    | error error =>
      simp only [Listing.direct, performed] at direct
      cases direct
    | ok keys =>
      simp only [Listing.direct, performed] at direct
      obtain rfl : .ofKeys keys = items := Except.ok.inj direct
      obtain ⟨frames, reply, grants, goes, read⟩ :=
        listKeys_goes found clear performed few within held counts
      exact ⟨frames, reply, grants, goes, _, by simp only [Call.readReply, read]; rfl, rfl⟩
  | pairs start stem =>
    cases performed : (db.perform (.listPairs start slots.keys.length stem)).1 with
    | error error =>
      simp only [Listing.direct, performed] at direct
      cases direct
    | ok entries =>
      simp only [Listing.direct, performed] at direct
      obtain rfl : .ofEntries entries = items := Except.ok.inj direct
      obtain ⟨frames, reply, grants, goes, read⟩ :=
        listPairs_goes found clear suits performed few within held counts
      exact ⟨frames, reply, grants, goes, _, by simp only [Call.readReply, read]; rfl, rfl⟩

theorem few_slots (clear : caller.client.regions.ids = []) (listing : Listing) {slots : Slots}
    (suits : listing.Suits slots) (held : slots.Held)
    (writable : ∀ frame ∈ (caller.talk target (listing.on id slots) server).frames,
      frame.Writable) : slots.keys.length < 2 ^ 32 := by
  have within : 8 * slots.keys.length ≤ maxPayload := by
    cases listing with
    | keys start stem =>
      obtain ⟨keys, values⟩ := slots
      obtain rfl : values = [] := suits
      obtain ⟨_, client, staged⟩ := caller.client.stage_listKeys_of_held held id start stem
      obtain ⟨rfl, -⟩ := Client.staged_listKeys clear staged
      have size := writable (.request target _) (by rw [talk_staged staged]; exact .head _)
      rw [Frame.Writable, Frame.payloadSize_listKeys] at size
      simp only [Descriptor.count, slotRegion, List.length_map] at size ⊢
      omega
    | pairs start stem =>
      obtain ⟨_, client, staged⟩ := caller.client.stage_listPairs_of_held held id start stem
      obtain ⟨rfl, -⟩ := Client.staged_listPairs clear staged
      have size := writable (.request target _) (by rw [talk_staged staged]; exact .head _)
      rw [Frame.Writable, Frame.payloadSize_listPairs] at size
      simp only [Descriptor.count, slotRegion, List.length_map] at size
      omega
  simp only [maxPayload] at within
  omega

end Courses

end Caller

/-- A listing of a map database does not fail, lists no more than it may, and leaves the database as
it is. -/
theorem Listing.direct_maps {db : Database Store} {store : MapStore} (maps : db.Maps store)
    (counted : store.Counted) (keysCounted : store.KeysCounted) (listing : Listing) {slots : Slots}
    (suits : listing.Suits slots) :
    ∃ items, listing.direct slots.keys.length db = (.ok items, db) ∧ items.Within slots ∧
      items.Counted := by
  have keysOf (start stem : Bytes) (count : Nat) :
      ∀ key ∈ (store.page start count stem).map Entry.key, key.length ≤ Bytes.maxLength := by
    intro key listed
    obtain ⟨entry, member, rfl⟩ := List.mem_map.mp listed
    exact keysCounted entry (MapStore.mem_of_page member)
  cases listing with
  | keys start stem =>
    have page := MapStore.length_page_le start slots.keys.length stem store
    refine ⟨.ofKeys ((store.page start slots.keys.length stem).map Entry.key), ?_, ⟨?_, ?_⟩,
      keysOf _ _ _, by simp⟩
    · rw [direct, maps.listKeys]
      rfl
    · simpa using page
    · simp
  | pairs start stem =>
    have page := MapStore.length_page_le start slots.keys.length stem store
    have same : slots.values.length = slots.keys.length := suits
    refine ⟨.ofEntries (store.page start slots.keys.length stem), ?_, ⟨?_, ?_⟩,
      keysOf _ _ _, ?_⟩
    · rw [direct, maps.listPairs]
      rfl
    · simpa [Slots.ofEntries] using page
    · simpa [Slots.ofEntries, same] using page
    · intro value listed
      obtain ⟨entry, member, rfl⟩ := List.mem_map.mp listed
      exact counted entry (MapStore.mem_of_page member)

namespace Caller

variable {target : UInt8} {id : DatabaseId} {caller : Caller} {server : Server Store}
  {db : Database Store} {store : MapStore}

/-- What a listing over the network returns, and where it leaves both sides. -/
theorem listing_received {active : Nat} (ready : caller.Ready active server)
    (found : server.database? target id = some db) (clear : caller.client.regions.ids = [])
    {listing : Listing} {slots items : Slots} (suits : listing.Suits slots)
    (direct : listing.direct slots.keys.length db = (.ok items, db)) (within : items.Within slots)
    (sized : slots.Held) (counts : items.Counted)
    (writable : ∀ frame ∈ (caller.talk target (listing.on id slots) server).frames,
      frame.Writable) :
    ∃ visit, caller.call .steady active target (listing.on id slots) server = some visit ∧
      listing.result visit.returned = items.receive slots ∧
      visit.server.database? target id = some db ∧
      (∀ others, visit.caller.Ready others visit.server) ∧
      visit.caller.client.regions.ids = [] := by
  obtain ⟨frames, reply, grants, goes, returned, read, received⟩ := listing_goes found clear listing
    suits (by rw [direct]) (few_slots clear listing suits sized writable) within sized counts
  obtain ⟨after, called, idle, ids, -⟩ :=
    call_settles ready (Listing.used suits id) goes.toSettles read writable
  have kept := goes.database
  rw [direct] at kept
  exact ⟨_, called, received, kept, ready.after goes.continues idle, ids⟩

/-- A listing of a map database over the network fills the first slots with what the database lists,
and leaves the others as they are, exactly when every item is within its slot. Otherwise each of
these slots becomes as long as its item, and the same listing with these slots, by any client that
finds the database unchanged, fills them. -/
theorem listing_fills_slots {active : Nat} (ready : caller.Ready active server)
    (found : server.database? target id = some db) (maps : db.Maps store)
    (counted : store.Counted) (keysCounted : store.KeysCounted)
    (clear : caller.client.regions.ids = []) {listing : Listing} {slots : Slots}
    (suits : listing.Suits slots) (sized : slots.Held)
    (writable : ∀ frame ∈ (caller.talk target (listing.on id slots) server).frames,
      frame.Writable) :
    ∃ items visit, listing.direct slots.keys.length db = (.ok items, db) ∧ items.Within slots ∧
      caller.call .steady active target (listing.on id slots) server = some visit ∧
      visit.server.database? target id = some db ∧
      (∀ others, visit.caller.Ready others visit.server) ∧
      visit.caller.client.regions.ids = [] ∧
      ((listing.result visit.returned).1 = .ok items.keys.length ↔ items.Fit slots) ∧
      (items.Fit slots → (listing.result visit.returned).2 = items.place slots) ∧
      (¬ items.Fit slots →
        listing.result visit.returned = (.error (.remote .truncated), items.blanks.place slots) ∧
        ∀ {reader : Caller} {later : Server Store} {others : Nat}, reader.Ready others later →
          later.database? target id = some db → reader.client.regions.ids = [] →
          (∀ frame ∈ (reader.talk target (listing.on id (items.blanks.place slots)) later).frames,
            frame.Writable) →
          ∃ again, reader.call .steady others target (listing.on id (items.blanks.place slots))
              later = some again ∧
            listing.result again.returned = (.ok items.keys.length, items.place slots)) := by
  obtain ⟨items, direct, within, counts⟩ :=
    Listing.direct_maps maps counted keysCounted listing suits
  obtain ⟨visit, called, received, kept, rested, cleared⟩ :=
    listing_received ready found clear suits direct within sized counts writable
  refine ⟨items, visit, direct, within, called, kept, rested, cleared, ?_, ?_, ?_⟩
  · rw [received, Slots.receive]
    split <;> simp_all
  · intro fit
    rw [received, Slots.receive, if_pos fit]
  · intro misfit
    rw [received, Slots.receive, if_neg misfit]
    refine ⟨rfl, ?_⟩
    intro reader later others readable same free readWritable
    obtain ⟨keys, values⟩ := Slots.length_place_blanks within
    have many : items.Within (items.blanks.place slots) := by
      simpa only [Slots.Within, keys, values] using within
    obtain ⟨again, got, read, -⟩ := listing_received readable same free
      (suits.of_length keys values) (by rw [keys]; exact direct) many
      (sized.place_blanks counts within) counts readWritable
    exact ⟨again, got, read.trans (Slots.receive_place_blanks items slots)⟩

/-- A map with two entries. -/
def twoEntries : MapStore :=
  { options := {}, entries := [⟨[7], [5]⟩, ⟨[7, 8], [6, 6]⟩] }

/-- Two entries are listed into three slots, of which the second is too short for its key, and then
again into the slots as they have become. -/
theorem listing_fills_slots_again :
    ∃ visit again, ({} : Caller).call .steady 0 1
        (.listPairs ⟨1⟩ [] [] [[1, 1], [1], [9]] [[1], [1, 1, 1], [9]])
        (.ofEngine (Store.map twoEntries)) = some visit ∧
      visit.returned.outcome = .error (.remote .truncated) ∧
      visit.returned.slots = { keys := [[0], [0, 0], [9]], values := [[0], [0, 0], [9]] } ∧
      visit.caller.call .steady 0 1
        (.listPairs ⟨1⟩ [] [] [[0], [0, 0], [9]] [[0], [0, 0], [9]]) visit.server = some again ∧
      again.returned.outcome = .ok 2 ∧
      again.returned.slots = { keys := [[7], [7, 8], [9]], values := [[5], [6, 6], [9]] } := by
  let slots : Slots := { keys := [[1, 1], [1], [9]], values := [[1], [1, 1, 1], [9]] }
  have ready : ({} : Caller).Ready 0 (.ofEngine (Store.map twoEntries)) :=
    ready_of_unused rfl rfl rfl
  obtain ⟨items, visit, direct, -, called, kept, rested, cleared, -, -, short⟩ :=
    @listing_fills_slots 1 ⟨1⟩ {} _ _ twoEntries 0 ready (Server.database?_ofEngine _)
      (Database.ofEngine_maps _) (by decide) (by decide) rfl (.pairs [] []) slots rfl
      ⟨⟨by decide, by decide⟩, by decide, by decide⟩ (by decide +kernel)
  have listed : (Listing.direct 3 (.ofEngine (Store.map twoEntries)) (.pairs [] [])).1 =
      .ok { keys := [[7], [7, 8]], values := [[5], [6, 6]] } := by rfl
  obtain rfl := Except.ok.inj ((congrArg Prod.fst direct).symm.trans listed)
  obtain ⟨told, repeated⟩ := short (by decide)
  have writable : ∀ visit ∈ ({} : Caller).call .steady 0 1
        (.listPairs ⟨1⟩ [] [] slots.keys slots.values) (.ofEngine (Store.map twoEntries)),
      ∀ frame ∈ (visit.caller.talk 1 (.listPairs ⟨1⟩ [] [] [[0], [0, 0], [9]] [[0], [0, 0], [9]])
        visit.server).frames, frame.Writable := by decide +kernel
  obtain ⟨again, got, read⟩ := repeated (rested 0) kept cleared (writable visit called)
  exact ⟨visit, again, called, congrArg Prod.fst told, congrArg Prod.snd told, got,
    congrArg Prod.fst read, congrArg Prod.snd read⟩

end Caller

end KeyDepot
