import PublishPool.Settings.Load
import PublishPool.Client.Settings
import Mathlib.Data.List.TakeWhile

/-!
Comma-separated settings.

The broker list and the topic set may each be given as one text. The text is split
at its commas (`Text.splitComma`: the pieces between the commas, which joined with
commas give the text back) and each piece is stripped of blanks at both ends
(`Text.strip`). The broker list keeps every piece, empty ones included, so it has
one entry more than the text has commas; the topic set keeps the pieces that are
not empty, once each. A client has a broker to connect to exactly when the text's
first piece is not all blank, and it is given the brokers joined with commas: the
text itself when no piece has blanks at either end.

Main statement: `comma_lists_round_trip`.
-/

namespace PublishPool

namespace Text

/-! ### Pieces between commas -/

section Pieces

variable {xs : List Char}

/-- One piece more than there are commas. -/
theorem length_splitOn_comma (xs : List Char) : (xs.splitOn ',').length = xs.count ',' + 1 := by
  induction xs with
  | nil => rfl
  | cons x rest ih =>
    rw [List.splitOn_cons_eq_if_modifyHead, List.count_cons]
    -- a comma opens a new piece; any other character joins the first one
    by_cases comma : x = ',' <;> simp [comma, ih]

/-- The first piece is everything before the first comma. -/
theorem head?_splitOn_comma (xs : List Char) :
    (xs.splitOn ',').head? = some (xs.takeWhile (· ≠ ',')) := by
  induction xs with
  | nil => rfl
  | cons x rest ih =>
    rw [List.splitOn_cons_eq_if_modifyHead]
    by_cases comma : x = ','
    · simp [comma]
    · obtain ⟨first, others, split⟩ := List.exists_cons_of_ne_nil (List.splitOn_ne_nil ',' rest)
      rw [split] at ih ⊢
      simp only [List.head?_cons, Option.some.injEq] at ih
      simp [comma, ih]

/-- No piece holds a comma. -/
theorem comma_not_mem_of_mem_splitOn {piece : List Char} (mem : piece ∈ xs.splitOn ',') :
    ',' ∉ piece := by
  induction xs generalizing piece with
  | nil =>
    rw [List.splitOn_nil, List.mem_singleton] at mem
    rw [mem]
    exact List.not_mem_nil
  | cons x rest ih =>
    rw [List.splitOn_cons_eq_if_modifyHead] at mem
    by_cases comma : x = ','
    · simp only [comma, beq_self_eq_true, ↓reduceIte, List.mem_cons] at mem
      rcases mem with rfl | mem
      · exact List.not_mem_nil
      · exact ih mem
    · obtain ⟨first, others, split⟩ := List.exists_cons_of_ne_nil (List.splitOn_ne_nil ',' rest)
      have plain : (x == ',') = false := by simpa using comma
      rw [split, plain] at mem
      simp only [Bool.false_eq_true, ↓reduceIte, List.modifyHead_cons, List.mem_cons] at mem
      rcases mem with rfl | mem
      · intro held
        rcases List.mem_cons.mp held with same | later
        · exact comma same.symm
        · exact ih (split ▸ List.mem_cons_self ..) later
      · exact ih (split ▸ List.mem_cons_of_mem _ mem)

end Pieces

variable {s : String}

/-- Joining the pieces with commas gives the text back. -/
theorem intercalate_splitComma (s : String) : ",".intercalate (splitComma s) = s := by
  apply String.toList_inj.mp
  simp only [splitComma, String.toList_intercalate, List.map_map]
  have pieces : (String.toList ∘ String.ofList) = id := funext fun _ => String.toList_ofList
  rw [pieces, List.map_id]
  exact List.intercalate_splitOn ','

/-- No piece holds a comma. -/
theorem comma_not_mem_of_mem_splitComma {piece : String} (mem : piece ∈ splitComma s) :
    ',' ∉ piece.toList := by
  obtain ⟨chars, mem', rfl⟩ := List.mem_map.mp mem
  rw [String.toList_ofList]
  exact comma_not_mem_of_mem_splitOn mem'

/-- One piece more than there are commas. -/
theorem length_splitComma (s : String) : (splitComma s).length = s.toList.count ',' + 1 := by
  rw [splitComma, List.length_map, length_splitOn_comma]

/-- The first piece is the text before its first comma. -/
theorem head?_splitComma (s : String) :
    (splitComma s).head? = some (String.ofList (s.toList.takeWhile (· ≠ ','))) := by
  rw [splitComma, List.head?_map, head?_splitOn_comma]
  rfl

theorem splitComma_ne_nil (s : String) : splitComma s ≠ [] := by
  simp [splitComma]

/-! ### Stripping -/

/-- A text is trimmed when neither end is a blank. -/
def Trimmed (t : String) : Prop :=
  (∀ c ∈ t.toList.head?, isSpace c = false) ∧ ∀ c ∈ t.toList.getLast?, isSpace c = false

/-- Stripping leaves nothing exactly when every character is blank. -/
theorem strip_eq_empty_iff (t : String) : strip t = "" ↔ ∀ c ∈ t.toList, isSpace c = true := by
  rw [strip, trimBy, ← String.toList_inj]
  simp only [String.toList_ofList, String.toList_empty, List.reverse_eq_nil_iff,
    List.dropWhile_eq_nil_iff, List.mem_reverse]
  constructor
  · intro blank
    -- what the first pass keeps starts with a character that is not blank
    by_cases kept : t.toList.dropWhile isSpace = []
    · exact List.dropWhile_eq_nil_iff.mp kept
    · have head := List.head_dropWhile_not isSpace kept
      rw [blank _ (List.head_mem kept)] at head
      cases head
  · intro blank c mem
    rw [List.dropWhile_eq_nil_iff.mpr blank] at mem
    cases mem

theorem strip_isEmpty_iff (t : String) :
    (strip t).isEmpty = true ↔ ∀ c ∈ t.toList, isSpace c = true := by
  rw [String.isEmpty_iff, strip_eq_empty_iff]

/-- Stripping a trimmed text leaves it as it is. -/
theorem strip_eq_self {t : String} (trimmed : Trimmed t) : strip t = t := by
  obtain ⟨front, back⟩ := trimmed
  have first : t.toList.dropWhile isSpace = t.toList := by
    cases chars : t.toList with
    | nil => rfl
    | cons c rest =>
      rw [chars] at front
      simp [front c rfl]
  have last : t.toList.reverse.dropWhile isSpace = t.toList.reverse := by
    cases chars : t.toList.reverse with
    | nil => rfl
    | cons c rest =>
      have final : c ∈ t.toList.getLast? := by
        rw [← List.head?_reverse, chars]
        rfl
      simp [back c final]
  rw [strip, trimBy, first, last, List.reverse_reverse, String.ofList_toList]

end Text

namespace Settings

variable {src : Sources} {cfg : Settings}

/-- A load that succeeds keeps the checked broker list and topic set. -/
theorem load_lists (loaded : load src = .ok cfg) :
    brokersField src = .ok cfg.brokers ∧ topicsField src = .ok (.ok cfg.topics) := by
  unfold load at loaded
  cases topics : topicsField src with
  | error f =>
    rw [topics] at loaded
    cases loaded
  | ok checked =>
    rw [topics] at loaded
    simp only [bind, Except.bind] at loaded
    -- every field is matched at once: only the case where all of them pass builds settings
    split at loaded
    · injection loaded with built
      subst built
      exact ⟨by assumption, rfl⟩
    · cases loaded

/-- A broker list given as text is loaded as its stripped pieces. -/
theorem load_brokers {s : String} (given : src.raw "brokers" = some (.str s))
    (loaded : load src = .ok cfg) : cfg.brokers = Text.splitCsv s := by
  have checked := (load_lists loaded).1
  rw [brokersField, given] at checked
  exact (Except.ok.inj checked).symm

/-- A topic set given as text is loaded as its stripped pieces that are not empty,
once each and in order. -/
theorem load_topics {t : String} (given : src.raw "topics" = some (.str t))
    (loaded : load src = .ok cfg) :
    cfg.topics = sortTexts (dedupTexts ((Text.splitCsv t).filter (!·.isEmpty))) := by
  have checked := (load_lists loaded).2
  rw [topicsField, given] at checked
  exact (Except.ok.inj (Except.ok.inj checked)).symm

/-! ### Sets of texts -/

/-- Keeping the first of equal texts, starting from texts already kept. -/
theorem dedup_foldl (xs acc : List String) :
    (∀ x, x ∈ xs.foldl (fun acc x => if acc.contains x then acc else acc ++ [x]) acc ↔
      x ∈ acc ∨ x ∈ xs) ∧
    (acc.Nodup →
      (xs.foldl (fun acc x => if acc.contains x then acc else acc ++ [x]) acc).Nodup) := by
  induction xs generalizing acc with
  | nil => simp
  | cons y rest ih =>
    rw [List.foldl_cons]
    by_cases seen : y ∈ acc
    · have kept : acc.contains y = true := List.contains_iff_mem.mpr seen
      simp only [kept, ↓reduceIte]
      refine ⟨fun x => ?_, (ih acc).2⟩
      rw [(ih acc).1 x, List.mem_cons]
      constructor
      · rintro (old | later)
        · exact .inl old
        · exact .inr (.inr later)
      · rintro (old | rfl | later)
        · exact .inl old
        · exact .inl seen
        · exact .inr later
    · have fresh : acc.contains y = false := by simpa using seen
      simp only [fresh, Bool.false_eq_true, ↓reduceIte]
      refine ⟨fun x => ?_, fun nodup => (ih _).2 ?_⟩
      · rw [(ih _).1 x, List.mem_append, List.mem_singleton, List.mem_cons]
        exact or_assoc
      · refine List.nodup_append.mpr
          ⟨nodup, List.nodup_cons.mpr ⟨List.not_mem_nil, List.nodup_nil⟩, ?_⟩
        intro a old b mem same
        rw [List.mem_singleton] at mem
        exact seen (mem ▸ same ▸ old)

theorem mem_dedupTexts {xs : List String} {x : String} : x ∈ dedupTexts xs ↔ x ∈ xs := by
  rw [dedupTexts, (dedup_foldl xs []).1 x]
  simp

theorem nodup_dedupTexts (xs : List String) : (dedupTexts xs).Nodup :=
  (dedup_foldl xs []).2 List.nodup_nil

theorem mem_sortTexts {xs : List String} {x : String} : x ∈ sortTexts xs ↔ x ∈ xs :=
  (List.mergeSort_perm xs _).mem_iff

theorem nodup_sortTexts {xs : List String} : (sortTexts xs).Nodup ↔ xs.Nodup :=
  (List.mergeSort_perm xs _).nodup_iff

/-! ### Client settings -/

/-- Setting one key leaves what is stored under another. -/
theorem lookup_insertEntry_of_ne (entries : List (String × Value)) {key other : String} (v : Value)
    (apart : other ≠ key) :
    Value.lookup (Value.insertEntry entries key v) other = Value.lookup entries other := by
  unfold Value.insertEntry Value.lookup
  split
  · -- entries under `key` are replaced, and none of them is found under `other`
    have same : ((fun e : String × Value => e.1 == other) ∘
        fun e => if e.1 == key then (key, v) else e) = fun e => e.1 == other := by
      funext e
      by_cases hit : e.1 = key <;> simp [hit]
    rw [List.find?_map, same, Option.map_map]
    cases found : entries.find? (·.1 == other) with
    | none => rfl
    | some e =>
      have named : e.1 = other := by simpa using List.find?_some found
      simp [named, apart]
  · rw [List.find?_append]
    simp [Ne.symm apart]

/-- Overrides under other keys leave what is stored under a key. -/
theorem lookup_updateAll_of_not_mem (base more : List (String × Value)) {other : String}
    (apart : ∀ e ∈ more, e.1 ≠ other) :
    Value.lookup (updateAll base more) other = Value.lookup base other := by
  induction more generalizing base with
  | nil => rfl
  | cons e rest ih =>
    have step : updateAll base (e :: rest) = updateAll (Value.insertEntry base e.1 e.2) rest := rfl
    rw [step, ih _ fun e' mem => apart e' (List.mem_cons_of_mem _ mem),
      lookup_insertEntry_of_ne _ _ (Ne.symm (apart e (List.mem_cons_self ..)))]

/-- A client of settings with a broker is given the brokers joined with commas,
unless an override sets them. -/
theorem clientSettings_servers (connects : cfg.hasBrokers = true)
    (overrides : List (String × Value)) (apart : ∀ e ∈ overrides, e.1 ≠ "bootstrap.servers") :
    ∃ entries, cfg.clientSettings overrides = .ok entries ∧
      Value.lookup entries "bootstrap.servers" = some (.str (",".intercalate cfg.brokers)) := by
  unfold clientSettings
  simp only [connects, Bool.not_true, Bool.false_eq_true, ↓reduceIte]
  refine ⟨_, rfl, ?_⟩
  rw [lookup_updateAll_of_not_mem _ _ apart]
  simp [Value.lookup]

/-! ### Reading a broker text -/

variable {s : String}

/-- A broker list read from a text has a broker to connect to exactly when the
text's first piece is not all blank. -/
theorem hasBrokers_iff (read : cfg.brokers = Text.splitCsv s) :
    cfg.hasBrokers = true ↔ ∃ c ∈ s.toList.takeWhile (· ≠ ','), Text.isSpace c = false := by
  obtain ⟨first, others, split⟩ := List.exists_cons_of_ne_nil (Text.splitComma_ne_nil s)
  have head := Text.head?_splitComma s
  rw [split, List.head?_cons, Option.some.injEq] at head
  rw [hasBrokers, read, Text.splitCsv, split, List.map_cons, head]
  dsimp only
  rw [Bool.not_eq_true', ← Bool.not_eq_true, Text.strip_isEmpty_iff, String.toList_ofList]
  simp

/-- Brokers read from a text whose pieces have no blanks at either end, joined with
commas, give the text back. -/
theorem intercalate_splitCsv (trimmed : ∀ piece ∈ Text.splitComma s, Text.Trimmed piece) :
    ",".intercalate (Text.splitCsv s) = s := by
  have kept : Text.splitCsv s = Text.splitComma s := by
    rw [Text.splitCsv, List.map_congr_left fun piece mem => Text.strip_eq_self (trimmed piece mem),
      List.map_id']
  rw [kept, Text.intercalate_splitComma]

/-- What a broker text `s` makes of the loaded settings. -/
structure BrokersRead (s : String) (cfg : Settings) : Prop where
  /-- the pieces between the commas give the text back and hold no comma -/
  pieces : ",".intercalate (Text.splitComma s) = s ∧ ∀ piece ∈ Text.splitComma s, ',' ∉ piece.toList
  /-- the brokers are the pieces, each stripped, empty ones kept -/
  brokers : cfg.brokers = (Text.splitComma s).map Text.strip
  /-- one broker more than the text has commas -/
  length : cfg.brokers.length = s.toList.count ',' + 1
  /-- a broker to connect to exactly when the first piece is not all blank -/
  connects : cfg.hasBrokers = true ↔ ∃ c ∈ s.toList.takeWhile (· ≠ ','), Text.isSpace c = false
  /-- a client is given the brokers joined with commas -/
  servers : cfg.hasBrokers = true → ∀ overrides : List (String × Value),
    (∀ e ∈ overrides, e.1 ≠ "bootstrap.servers") → ∃ entries,
      cfg.clientSettings overrides = .ok entries ∧
      Value.lookup entries "bootstrap.servers" = some (.str (",".intercalate cfg.brokers))
  /-- which is the text itself when no piece has blanks at either end -/
  roundTrip : (∀ piece ∈ Text.splitComma s, Text.Trimmed piece) → ",".intercalate cfg.brokers = s

/-- What a topic text `t` makes of the loaded settings: the set of its pieces, each
stripped, that are not empty. -/
structure TopicsRead (t : String) (cfg : Settings) : Prop where
  /-- each topic once -/
  nodup : cfg.topics.Nodup
  /-- the topics are the stripped pieces that are not empty -/
  mem : ∀ x, x ∈ cfg.topics ↔ x ∈ (Text.splitComma t).map Text.strip ∧ x ≠ ""

theorem BrokersRead.of_splitCsv (read : cfg.brokers = Text.splitCsv s) : BrokersRead s cfg where
  pieces := ⟨Text.intercalate_splitComma s, fun _ => Text.comma_not_mem_of_mem_splitComma⟩
  brokers := read
  length := by rw [read, Text.splitCsv, List.length_map, Text.length_splitComma]
  connects := hasBrokers_iff read
  servers := clientSettings_servers
  roundTrip trimmed := by rw [read, intercalate_splitCsv trimmed]

theorem TopicsRead.of_load {t : String} (read : cfg.topics =
    sortTexts (dedupTexts ((Text.splitCsv t).filter (!·.isEmpty)))) : TopicsRead t cfg where
  nodup := by
    rw [read, nodup_sortTexts]
    exact nodup_dedupTexts _
  mem x := by
    rw [read, mem_sortTexts, mem_dedupTexts, List.mem_filter, Text.splitCsv]
    simp

end Settings

/-- Comma-separated settings round-trip: a broker list given as text is the text's
pieces between commas, each stripped, with one broker more than there are commas, a
broker to connect to exactly when the first piece is not all blank, and the text
itself given to a client when no piece has blanks at either end; a topic set given as
text is the set of its stripped pieces that are not empty. -/
theorem comma_lists_round_trip {src : Sources} {cfg : Settings}
    (loaded : Settings.load src = .ok cfg) :
    (∀ s, src.raw "brokers" = some (.str s) → Settings.BrokersRead s cfg) ∧
      ∀ t, src.raw "topics" = some (.str t) → Settings.TopicsRead t cfg :=
  ⟨fun _ given => .of_splitCsv (Settings.load_brokers given loaded),
    fun _ given => .of_load (Settings.load_topics given loaded)⟩

/-- Brokers and topics from the environment, with blanks around a piece, an empty
topic piece and a repeated topic. -/
theorem comma_lists_from_environment :
    ∃ cfg, Settings.load { env := [("KAFKA_BROKERS", " a:1 ,b:2"), ("kafka_topics", "x,, y ,x")] } =
        .ok cfg ∧
      (∀ s, Sources.raw { env := [("KAFKA_BROKERS", " a:1 ,b:2"), ("kafka_topics", "x,, y ,x")] }
          "brokers" = some (.str s) → Settings.BrokersRead s cfg) ∧
      ∀ t, Sources.raw { env := [("KAFKA_BROKERS", " a:1 ,b:2"), ("kafka_topics", "x,, y ,x")] }
          "topics" = some (.str t) → Settings.TopicsRead t cfg :=
  ⟨_, rfl, comma_lists_round_trip rfl⟩

end PublishPool
