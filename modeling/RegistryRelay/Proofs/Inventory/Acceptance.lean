import RegistryRelay.Proofs.Directory.Archive
import RegistryRelay.Proofs.Inventory.Reading
import RegistryRelay.Proofs.Inventory.Writing

namespace RegistryRelay.Inventory

def Shows (same : α → β → Prop) (d : Dict α) (pairs : List (String × β)) : Prop :=
  ∀ name, Option.Rel same (d.get? name) (Dict.last? pairs name)

def ShowsEntry (metadata : Dict String) (entry : Option Metadata) : Prop :=
  ∀ key, metadata.get? key = Dict.last? (entry.getD []) key

abbrev ShowsListing : Inventory → Listing → Prop := Shows (Shows ShowsEntry)

-- No reader can tell the two apart.
def Agree (like : α → α → Prop) (d e : Dict α) : Prop :=
  ∀ name, Option.Rel like (d.get? name) (e.get? name)

def SameMetadata (metadata other : Dict String) : Prop := ∀ key, metadata.get? key = other.get? key

abbrev SameInventory : Inventory → Inventory → Prop := Agree (Agree SameMetadata)

structure Holds (s : Snapshot) (registry : List (String × Option Metadata)) : Prop where
  listed : ∀ device, device ∈ s.listDevices ↔ device ∈ registry.map (·.1)
  fetched : ∀ device entry, Dict.last? registry device = some entry → ∃ metadata,
    s.fetch device = .ok ⟨device,metadata⟩ ∧ ShowsEntry metadata entry

-- A connect finds the registries that occur in a listing, each as it occurs last, and no others.
structure Connects (listing : Listing) (file : File) : Prop where
  absent : ∀ (d : FileDirectory) (binding : DirectoryBinding),
    binding.registry ∉ listing.map (·.1) → d.connect file binding =
      .error (.directory ("Registry " ++ binding.registry ++ " not present in " ++ d.path))
  present : ∀ (d : FileDirectory) (binding : DirectoryBinding),
    binding.registry ∈ listing.map (·.1) → ∃ registry s later,
      Dict.last? listing binding.registry = some registry ∧
      d.connect file binding = .ok (d.snapshots.length,later) ∧
      later.snapshot? d.snapshots.length = some s ∧ s.binding = binding ∧ Holds s registry

variable {α β : Type} {d : Dict α} {pairs : List (String × β)} {name : String}

theorem last?_valued (meaning : β → α) (pairs : List (String × β)) (name : String) :
    Dict.last? (pairs.map (Reader.Valued meaning)) name = (Dict.last? pairs name).map meaning := by
  induction pairs with
  | nil => rfl
  | cons pair rest ih =>
      rw [List.map_cons,Dict.last?_cons,Dict.last?_cons,ih,Reader.Valued]
      split <;> cases Dict.last? rest name <;> rfl

theorem shows_ofPairs {same : α → β → Prop} {meaning : β → α} (fits : ∀ raw, same (meaning raw) raw)
    (pairs : List (String × β)) : Shows same (.ofPairs (pairs.map (Reader.Valued meaning))) pairs := by
  intro name
  rw [Dict.get?_ofPairs,last?_valued]
  cases Dict.last? pairs name with
  | none => exact .none
  | some raw => exact .some (fits raw)

theorem Shows.found {same : α → β → Prop} (shows : Shows same d pairs) {raw : β}
    (last : Dict.last? pairs name = some raw) : ∃ value, d.get? name = some value ∧ same value raw := by
  have fits := shows name
  rw [last] at fits
  generalize d.get? name = value at fits ⊢
  cases fits with
  | some fits => exact ⟨_,rfl,fits⟩

theorem Shows.missing {same : α → β → Prop} (shows : Shows same d pairs)
    (last : Dict.last? pairs name = none) : d.get? name = none := by
  have fits := shows name
  rw [last] at fits
  generalize d.get? name = value at fits ⊢
  cases fits with
  | none => rfl

theorem Shows.mem {same : α → β → Prop} (shows : Shows same d pairs) (name : String) :
    (d.get? name).isSome ↔ name ∈ pairs.map (·.1) := by
  rw [← Dict.last?_isSome_iff]
  cases last : Dict.last? pairs name with
  | none =>
      rw [shows.missing last]
      exact Iff.rfl
  | some raw =>
      obtain ⟨value,has,_⟩ := shows.found last
      rw [has]
      rfl

theorem Shows.agree {same : α → β → Prop} {like : α → α → Prop} {e : Dict α}
    (here : Shows same d pairs) (there : Shows same e pairs)
    (alike : ∀ a b raw, same a raw → same b raw → like a b) : Agree like d e := by
  intro name
  cases last : Dict.last? pairs name with
  | none =>
      rw [here.missing last,there.missing last]
      exact .none
  | some raw =>
      obtain ⟨a,hasHere,fitsHere⟩ := here.found last
      obtain ⟨b,hasThere,fitsThere⟩ := there.found last
      rw [hasHere,hasThere]
      exact .some (alike a b raw fitsHere fitsThere)

theorem ShowsListing.agree {listing : Listing} {d e : Inventory} (here : ShowsListing d listing)
    (there : ShowsListing e listing) : SameInventory d e := by
  apply Shows.agree here there
  intro devices others registry left right
  apply Shows.agree left right
  intro metadata other entry left right key
  rw [left,right]

def spelledOut (spell : α → β) (d : Dict α) : List (String × β) :=
  (d.entries.map fun entry => (entry.1,spell entry.2)).reverse

theorem shows_spelledOut {same : α → β → Prop} {spell : α → β} (fits : ∀ value, same value (spell value))
    (d : Dict α) : Shows same d (spelledOut spell d) := by
  obtain ⟨entries⟩ := d
  intro name
  unfold spelledOut Dict.get?
  induction entries with
  | nil => exact .none
  | cons entry rest ih =>
      obtain ⟨key,value⟩ := entry
      rw [List.map_cons,List.reverse_cons,Dict.last?_concat,List.lookup_cons]
      by_cases found : name = key
      · rw [if_pos found,beq_iff_eq.mpr found]
        exact .some (fits value)
      · rw [if_neg found,beq_eq_false_iff_ne.mpr found]
        exact ih

def entrySpelled (metadata : Dict String) : Option Metadata := some (spelledOut id metadata)

theorem entrySpelled_shows (metadata : Dict String) : ShowsEntry metadata (entrySpelled metadata) := by
  intro key
  have shows : Shows Eq metadata (spelledOut id metadata) := shows_spelledOut (fun _ => rfl) metadata
  change metadata.get? key = Dict.last? (spelledOut id metadata) key
  cases last : Dict.last? (spelledOut id metadata) key with
  | none => exact shows.missing last
  | some value =>
      obtain ⟨_,has,rfl⟩ := shows.found last
      exact has

theorem listing_exists (inventory : Inventory) : ∃ listing, ShowsListing inventory listing :=
  ⟨_,shows_spelledOut (shows_spelledOut entrySpelled_shows) inventory⟩

def entryOf (entry : Option Metadata) : Dict String :=
  (entry.map fun pairs => Dict.ofPairs (pairs.map (Reader.Valued id))).getD {}

def listingOf (listing : Listing) : Inventory :=
  Dict.ofPairs (listing.map (Reader.Valued fun registry =>
    Dict.ofPairs (registry.map (Reader.Valued entryOf))))

theorem entryOf_shows (entry : Option Metadata) : ShowsEntry (entryOf entry) entry := by
  intro key
  cases entry with
  | none => rfl
  | some pairs =>
      change (Dict.ofPairs (pairs.map (Reader.Valued id))).get? key = Dict.last? pairs key
      rw [Dict.get?_ofPairs,last?_valued,Option.map_id]
      rfl

theorem listingOf_shows (listing : Listing) : ShowsListing (listingOf listing) listing :=
  shows_ofPairs (shows_ofPairs entryOf_shows) listing

theorem registries_reads : Reader.Reads registries
    (fun listing => Record "registries" (Object (Object Entry)) (some listing)) listingOf := by
  have metadata : Reader.Reads metadata Entry entryOf :=
    Reader.optional_reads (Reader.map_reads Reader.text_reads) "DeviceEntry" "metadata" {}
  apply Reader.required_reads (Reader.map_reads (Reader.map_reads metadata))
  intro sequence
  cases sequence with
  | true => exact ⟨_,rfl⟩
  | false => exact ⟨_,rfl⟩

variable {text : String} {inventory : Inventory} {listing : Listing}

theorem read_ok_iff : read text = .ok inventory ↔
    ∃ listing, Document listing text.toList ∧ listingOf listing = inventory := by
  unfold read
  constructor
  · intro accepted
    split at accepted
    · cases accepted
    · rename_i ran
      cases accepted
      obtain ⟨listing,tail,record,means,ends⟩ := registries_reads.sound ran
      exact ⟨listing,.record record (lexemes_nil_iff.mp ends),means⟩
    · cases accepted
  · rintro ⟨listing,⟨record,blank⟩,rfl⟩
    rw [registries_reads.complete record,lexemes_nil_iff.mpr blank]

theorem load_ok_iff : load (.text text) = .ok inventory ↔
    ∃ listing, Document listing text.toList ∧ listingOf listing = inventory := by
  rw [← read_ok_iff,load]
  cases read text with
  | error error => simp
  | ok found => simp

theorem snapshot_holds {binding : DirectoryBinding} {devices : Dict (Dict String)}
    {registry : List (String × Option Metadata)} (shows : Shows ShowsEntry devices registry) :
    Holds { binding,devices } registry := by
  constructor
  case listed =>
    intro device
    rw [Snapshot.mem_listDevices]
    exact shows.mem device
  case fetched =>
    intro device entry last
    obtain ⟨metadata,has,fits⟩ := shows.found last
    refine ⟨metadata,?_,fits⟩
    simp only [Snapshot.fetch,has]

theorem document_connects (document : Document listing text.toList) :
    Connects listing (.text text) := by
  have loads : load (.text text) = .ok (listingOf listing) := load_ok_iff.mpr ⟨listing,document,rfl⟩
  have shows := listingOf_shows listing
  constructor
  case absent =>
    intro d binding absent
    have missing : (listingOf listing).get? binding.registry = none :=
      Option.not_isSome_iff_eq_none.mp (fun has => absent ((shows.mem _).mp has))
    simp only [FileDirectory.connect,loads,missing]
  case present =>
    intro d binding occurs
    obtain ⟨registry,last⟩ := Option.isSome_iff_exists.mp ((Dict.last?_isSome_iff _ _).mpr occurs)
    obtain ⟨devices,has,fits⟩ := shows.found last
    have listed : (File.text text).devices? binding.registry = some devices := by
      simp only [File.devices?,loads,has]
    exact ⟨registry,_,_,last,d.connect_listed listed,List.getElem?_concat_length,rfl,snapshot_holds fits⟩

theorem documents_read_back :
    (∀ text : String, (∃ inventory, load (.text text) = .ok inventory) ↔
      ∃ listing, Document listing text.toList) ∧
    (∀ (text : String) listing, Document listing text.toList → Connects listing (.text text)) ∧
    ∀ inventory : Inventory,
      (∃ (listing : Listing) (text : String),
        ShowsListing inventory listing ∧ Document listing text.toList) ∧
      ∀ (listing : Listing) (text : String), ShowsListing inventory listing →
        Document listing text.toList →
        ∃ back, load (.text text) = .ok back ∧ SameInventory back inventory := by
  refine ⟨?_,fun _ _ => document_connects,?_⟩
  · intro text
    constructor
    · rintro ⟨inventory,loads⟩
      obtain ⟨listing,document,_⟩ := load_ok_iff.mp loads
      exact ⟨listing,document⟩
    · rintro ⟨listing,document⟩
      exact ⟨_,load_ok_iff.mpr ⟨listing,document,rfl⟩⟩
  intro inventory
  constructor
  · obtain ⟨listing,shows⟩ := listing_exists inventory
    obtain ⟨text,document⟩ := document_writable listing
    exact ⟨listing,text,shows,document⟩
  · intro listing text shows document
    exact ⟨_,load_ok_iff.mpr ⟨listing,document,rfl⟩,(listingOf_shows listing).agree shows⟩

def sample : String := " [\x7b\"\\u0072\":\x7b\"d\":[]\x7d,\"r\":\x7b\"e\":\x7b\x7d\x7d\x7d]"

def sampleListing : Listing := [("r",[("d",none)]),("r",[("e",none)])]

theorem letter_text {c : Char} (plain : 0x20 ≤ c.toNat ∧ c ≠ '"' ∧ c ≠ '\\') (tail : List Char) :
    Text (String.ofList [c]) ('"' :: c :: '"' :: tail) tail := by
  refine ⟨[],[c],nofun,?_,rfl⟩
  rw [String.toList_ofList]
  exact .char (.plain plain.1 plain.2.1 plain.2.2) .nothing

-- The parts of the text are put together from its end.
theorem sample_document : Document sampleListing sample.toList := by
  have e : Members Entry [("e",none)] _ ['\x7d',']'] :=
    .last (.member (letter_text (by decide) _) (mark_first ':' _)
      (.empty (mark_first _ _) (mark_first _ _))) (mark_first _ _)
  have second : Members (Object Entry) [("r",[("e",none)])] _ [']'] :=
    .last (.member (letter_text (by decide) _) (mark_first ':' _) (.members (mark_first _ _) e))
      (mark_first _ _)
  have d (tail : List Char) : Members Entry [("d",none)] _ tail :=
    .last (.member (letter_text (by decide) _) (mark_first ':' _)
      (.nothing (mark_first _ _) (mark_first _ _))) (mark_first _ tail)
  have digits : ∀ digit ∈ ['0','0','7','2'], isHex digit = true := by
    simp only [List.forall_mem_cons]
    exact ⟨rfl,rfl,rfl,rfl,nofun⟩
  have escaped : Escaped [hexNumber ['0','0','7','2']] _ := .unit digits .nothing
  have name : Body "r".toList _ := .char (.escaped escaped) .nothing
  have both : Members (Object Entry) sampleListing _ [']'] :=
    .more (.member ⟨[],_,nofun,name,rfl⟩ (mark_first ':' _) (.members (mark_first _ _) (d _)))
      (mark_first ',' _) second
  have whole : Document sampleListing _ :=
    .record (.array ⟨[' '],by simp [Blank],rfl⟩ (.members (mark_first _ _) both) (mark_first _ _)) nofun
  refine cast (congrArg (Document sampleListing) ?_) whole
  decide +kernel

theorem documents_read_back_sample :
    (∃ s later, FileDirectory.connect {} (.text sample) ⟨"src","r","eu"⟩ = .ok (0,later) ∧
      later.snapshot? 0 = some s ∧ "e" ∈ s.listDevices ∧ "d" ∉ s.listDevices) ∧
    FileDirectory.connect {} (.text sample) ⟨"src","q","eu"⟩ =
      .error (.directory "Registry q not present in registry.json") := by
  obtain ⟨absent,present⟩ := documents_read_back.2.1 sample sampleListing sample_document
  constructor
  · obtain ⟨registry,s,later,last,connects,handed,_,holds⟩ := present {} ⟨"src","r","eu"⟩ (by decide)
    obtain rfl : [("e",none)] = registry := Option.some.inj last
    refine ⟨s,later,connects,handed,?_,?_⟩
    · rw [holds.listed]
      decide
    · rw [holds.listed]
      decide
  · exact absent {} ⟨"src","q","eu"⟩ (by decide)

end RegistryRelay.Inventory
