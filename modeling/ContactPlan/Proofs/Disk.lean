import ContactPlan.Disk

namespace ContactPlan.Disk

/-- A node is found as before when another one is taken away. -/
theorem lookup_filter_other {location other : Location} (different : other ≠ location)
    (nodes : List (Location × Node)) :
    (nodes.filter fun entry => entry.1 ≠ location).lookup other = nodes.lookup other := by
  induction nodes with
  | nil => rfl
  | cons entry rest inductionHypothesis =>
      obtain ⟨key, node⟩ := entry
      by_cases isLocation : key = location
      · subst isLocation
        have missed : (other == key) = false := beq_false_of_ne different
        rw [List.filter_cons_of_neg (by simp), inductionHypothesis, List.lookup_cons, missed]
      · rw [List.filter_cons_of_pos (by simpa using isLocation), List.lookup_cons,
          List.lookup_cons, inductionHypothesis]

/-- A node that is put somewhere leaves all other places alone. -/
theorem node?_put_other (disk : Disk) {location other : Location} (node : Node)
    (different : other ≠ location) : (disk.put location node).node? other = disk.node? other := by
  have missed : (other == location) = false := beq_false_of_ne different
  change (if other.isPrefixOf disk.working then _ else _) = _
  rw [put, List.lookup_cons, missed, lookup_filter_other different]
  rfl

/-- A node that is put where there is no directory is there. -/
theorem node?_put_same (disk : Disk) {location : Location} (node : Node)
    (free : disk.node? location ≠ some .directory) :
    (disk.put location node).node? location = some node := by
  have outside : ¬location.isPrefixOf disk.working = true := by
    intro isPrefix
    exact free (if_pos isPrefix)
  change (if location.isPrefixOf disk.working then _ else _) = _
  rw [if_neg outside, put, List.lookup_cons, beq_self_eq_true]

/-- A way that leads somewhere only goes through directories, so that no file is on it. -/
theorem follow_put {disk : Disk} {location : Location} (node : Node)
    (free : disk.node? location ≠ some .directory) {names : List String} {here reached : Location}
    (leads : disk.follow here names = .ok reached) :
    (disk.put location node).follow here names = .ok reached := by
  induction names generalizing here with
  | nil => exact leads
  | cons name rest inductionHypothesis =>
      rw [follow] at leads ⊢
      cases found : disk.node? here with
      | none =>
          rw [found] at leads
          cases leads
      | some there =>
          rw [found] at leads
          cases there with
          | file bytes => cases leads
          | directory =>
              have different : here ≠ location := by
                rintro rfl
                exact free found
              rw [node?_put_other disk node different, found]
              by_cases long : nameLimit < name.utf8ByteSize
              · rw [if_pos long] at leads
                cases leads
              · rw [if_neg long] at leads ⊢
                exact inductionHypothesis leads

/-- A path is writable when it leads to a place that is not a directory. -/
def Writable (disk : Disk) (path : String) : Prop :=
  ∃ location, disk.locateNew path = .ok location ∧ disk.node? location ≠ some .directory

/-- A write succeeds or fails whatever the bytes are. -/
theorem writable_of_write {disk next : Disk} {path : String} {bytes : List UInt8}
    (written : disk.write path bytes = .ok next) : disk.Writable path := by
  unfold write at written
  cases found : disk.locateNew path with
  | error fault =>
      rw [found] at written
      cases written
  | ok location =>
      rw [found] at written
      refine ⟨location, found, fun isDirectory => ?_⟩
      simp only [if_pos isDirectory] at written
      cases written

/-- A path with a slash at its end has an empty name behind the slash. -/
theorem components_of_asksForDirectory {path : String} (asks : asksForDirectory path = true) :
    ∃ names, components path = names ++ [""] := by
  obtain ⟨front, split⟩ := List.getLast?_eq_some_iff.mp (of_decide_eq_true asks)
  refine ⟨(Fields.split '/' front).map String.ofList, ?_⟩
  rw [components, split, Fields.split_concat, List.map_append]
  rfl

/-- An empty name at the end of a way stays where it is, which has to be a directory. -/
theorem isDirectory_of_follow_empty {disk : Disk} {names : List String} {here reached : Location}
    (leads : disk.follow here (names ++ [""]) = .ok reached) :
    disk.node? reached = some .directory := by
  induction names generalizing here with
  | nil =>
      rw [List.nil_append, follow] at leads
      split at leads
      next isDirectory =>
        rw [if_neg (by decide)] at leads
        cases leads
        exact isDirectory
      · cases leads
      · cases leads
  | cons name rest inductionHypothesis =>
      rw [List.cons_append, follow] at leads
      split at leads
      · split at leads
        · cases leads
        · exact inductionHypothesis leads
      · cases leads
      · cases leads

/-- A file that can be read can be overwritten. -/
theorem writable_of_read {disk : Disk} {path : String} {bytes : List UInt8}
    (reads : disk.read path = .ok bytes) : disk.Writable path := by
  unfold read at reads
  cases located : disk.locate path with
  | error fault =>
      rw [located] at reads
      cases reads
  | ok location =>
      simp only [located] at reads
      have isFile : disk.node? location ≠ some .directory := by
        intro isDirectory
        rw [isDirectory] at reads
        cases reads
      unfold locate at located
      cases accepted : refusal? path with
      | some fault =>
          rw [accepted] at located
          cases located
      | none =>
          simp only [accepted] at located
          have noSlash : ¬asksForDirectory path = true := by
            intro asks
            obtain ⟨names, split⟩ := components_of_asksForDirectory asks
            rw [split] at located
            exact isFile (isDirectory_of_follow_empty located)
          refine ⟨location, ?_, isFile⟩
          simp only [locateNew, accepted, if_neg noSlash]
          exact located

/-- The place of a new file is the place where it is read. -/
theorem locate_of_locateNew {disk : Disk} {path : String} {location : Location}
    (found : disk.locateNew path = .ok location) :
    refusal? path = none ∧ asksForDirectory path = false ∧
      disk.follow (disk.origin path) (components path) = .ok location := by
  unfold locateNew at found
  cases refused : refusal? path with
  | some fault =>
      rw [refused] at found
      cases found
  | none =>
      rw [refused] at found
      by_cases asks : asksForDirectory path
      · simp only [if_pos asks] at found
        cases follows : disk.follow (disk.origin path) (leading path) with
        | error fault =>
            rw [follows] at found
            cases found
        | ok reached =>
            rw [follows] at found
            cases found
      · simp only [if_neg asks] at found
        exact ⟨rfl, eq_false_of_ne_true asks, found⟩

/-- A file that is put in its place does not move the place. -/
theorem locateNew_put {disk : Disk} {path : String} {location : Location}
    (found : disk.locateNew path = .ok location) (free : disk.node? location ≠ some .directory)
    (node : Node) : (disk.put location node).locateNew path = .ok location := by
  obtain ⟨accepted, isFile, follows⟩ := locate_of_locateNew found
  simp only [locateNew, accepted, isFile]
  exact follow_put node free follows

/-- What is written can be read, and the path can be written again. -/
theorem Writable.write {disk : Disk} {path : String} (writable : disk.Writable path)
    (bytes : List UInt8) :
    ∃ next, disk.write path bytes = .ok next ∧ next.read path = .ok bytes ∧
      next.Writable path := by
  obtain ⟨location, found, free⟩ := writable
  obtain ⟨accepted, -, follows⟩ := locate_of_locateNew found
  have followsAgain := follow_put (.file bytes) free follows
  have isThere := node?_put_same disk (.file bytes) free
  refine ⟨disk.put location (.file bytes), ?_, ?_, location, locateNew_put found free _, ?_⟩
  · simp only [Disk.write, found, if_neg free]
  · have located : (disk.put location (.file bytes)).locate path = .ok location := by
      simp only [locate, accepted]
      exact followsAgain
    simp only [read, located, isThere]
  · rw [isThere]
    exact fun isDirectory => by cases isDirectory

/-- A node that is put twice is there once. -/
theorem put_put (disk : Disk) (location : Location) (node : Node) :
    (disk.put location node).put location node = disk.put location node := by
  simp [put]

/-- The same bytes are written twice as they are written once. -/
theorem write_again {disk next : Disk} {path : String} {bytes : List UInt8}
    (written : disk.write path bytes = .ok next) : next.write path bytes = .ok next := by
  obtain ⟨location, found, free⟩ := writable_of_write written
  have stillFree : (disk.put location (.file bytes)).node? location ≠ some .directory := by
    rw [node?_put_same disk (.file bytes) free]
    simp
  have isNext : disk.put location (.file bytes) = next := by
    simp only [write, found, if_neg free] at written
    exact Except.ok.inj written
  rw [← isNext]
  simp only [write, locateNew_put found free, if_neg stillFree, put_put]

end ContactPlan.Disk
