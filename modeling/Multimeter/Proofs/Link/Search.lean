import Multimeter.Link
/-!
# Looking for a frame

What one search of a link does, told in terms of a bare parser that is fed byte by byte: a search
takes bytes off the front of the inbox up to the first frame, and if there is none, all of them.

* `search_takes`: the parser and the inbox after a search.
* `handedOut_search`: the frame that a search hands out.
-/

namespace Multimeter

namespace Frame.Parser

/-- A search takes a beginning of the bytes as a bare parser takes them, up to the first frame. -/
theorem scan_eq_feedAll (parser : Parser) (bytes : List UInt8) :
    ∃ taken, bytes = taken ++ (parser.scan bytes).rest ∧
      (parser.feedAll taken).2 = (parser.scan bytes).parser ∧
      (parser.feedAll taken).1.filterMap Verdict.frame? =
        (Verdict.frame? (parser.scan bytes).found).toList := by
  -- one case for each way that the scan goes on or stops at a byte
  fun_induction scan parser bytes with
  | case1 => exact ⟨[], rfl, rfl, rfl⟩
  | case2 parser byte bytes next hfeed ih =>
    obtain ⟨taken, hbytes, hparser, hframes⟩ := ih
    refine ⟨byte :: taken, by rw [List.cons_append, ← hbytes], ?_, ?_⟩
    · rw [feedAll_cons, hfeed]
      exact hparser
    · rw [feedAll_cons, hfeed]
      exact hframes
  | case3 parser byte bytes frame next hfeed =>
    refine ⟨[byte], rfl, ?_, ?_⟩
    · rw [feedAll_cons, hfeed]
      rfl
    · rw [feedAll_cons, hfeed]
      rfl
  -- an error that the parser recovers from is dropped, and the search goes on behind it
  | case4 parser byte bytes error next hfeed hrecoverable later ih =>
    obtain ⟨taken, hbytes, hparser, hframes⟩ := ih
    refine ⟨byte :: taken, by rw [List.cons_append]; exact congrArg _ hbytes, ?_, ?_⟩
    · rw [feedAll_cons, hfeed]
      exact hparser
    · rw [feedAll_cons, hfeed]
      exact hframes
  | case5 parser byte bytes error next hfeed hrecoverable =>
    refine ⟨[byte], rfl, ?_, ?_⟩
    · rw [feedAll_cons, hfeed]
      rfl
    · rw [feedAll_cons, hfeed]
      rfl

end Frame.Parser

/-- The bytes that the reads of a history delivered, in order. -/
def delivered (history : List Event) : List UInt8 := history.flatMap Event.delivered

/-- The frames that were handed out in a history, in order. -/
def handedOut (history : List Event) : List Frame := history.filterMap Event.frame?

@[simp]
theorem delivered_append (xs ys : List Event) :
    delivered (xs ++ ys) = delivered xs ++ delivered ys :=
  List.flatMap_append

@[simp]
theorem handedOut_append (xs ys : List Event) :
    handedOut (xs ++ ys) = handedOut xs ++ handedOut ys :=
  List.filterMap_append

/-- The frame that a look for one ended with. -/
def Ending.frame? : Ending (Option Frame) → Option Frame
  | .returned found => found
  | _ => none

namespace Link

open Frame.Parser

variable {ω : Type}

/-- A search ends with what the scan of the inbox found. -/
theorem frame?_search (link : Link ω) :
    (search.run link).ending.frame? = Verdict.frame? (link.parser.scan link.rest).found := by
  simp only [search, Act.run]
  cases (link.parser.scan link.rest).found with
  | ok found => cases found <;> rfl
  | error error => rfl

/-- The events of a search are log entries; the last one reports the frame that it ends with. -/
theorem events_search (link : Link ω) :
    ∃ errors : List FrameError, (search.run link).events =
      errors.map (fun error => Event.logged (.dropped error)) ++
        (search.run link).ending.frame?.toList.map fun frame => Event.logged (.received frame) := by
  refine ⟨(link.parser.scan link.rest).dropped, ?_⟩
  rw [frame?_search]
  simp only [search, Act.run]
  cases (link.parser.scan link.rest).found with
  | ok found =>
    cases found with
    | some frame => rfl
    | none => exact (List.append_nil _).symm
  | error error => exact (List.append_nil _).symm

/-- Log entries are all that a search adds to the history. -/
theorem exists_entry_of_mem_search {link : Link ω} {event : Event}
    (h : event ∈ (search.run link).events) : ∃ entry, event = .logged entry := by
  obtain ⟨errors, hevents⟩ := events_search link
  rw [hevents, List.mem_append, List.mem_map, List.mem_map] at h
  rcases h with ⟨error, -, rfl⟩ | ⟨frame, -, rfl⟩
  · exact ⟨_, rfl⟩
  · exact ⟨_, rfl⟩

/-- A search reads nothing from the wire. -/
theorem delivered_search (link : Link ω) : delivered (search.run link).events = [] := by
  refine List.flatMap_eq_nil_iff.2 fun event hmem => ?_
  obtain ⟨entry, rfl⟩ := exists_entry_of_mem_search hmem
  rfl

/-- There is no read in a search. -/
theorem countP_isRead_search (link : Link ω) :
    (search.run link).events.countP Event.isRead = 0 := by
  refine List.countP_eq_zero.2 fun event hmem => ?_
  obtain ⟨entry, rfl⟩ := exists_entry_of_mem_search hmem
  exact Bool.false_ne_true

/-- A search hands out the frame that it ends with, and no other. -/
theorem handedOut_search (link : Link ω) :
    handedOut (search.run link).events = (search.run link).ending.frame?.toList := by
  obtain ⟨errors, hevents⟩ := events_search link
  have hskipped : handedOut (errors.map fun error => Event.logged (.dropped error)) = [] := by
    rw [handedOut, List.filterMap_map]
    exact List.filterMap_eq_nil_iff.2 fun _ _ => rfl
  rw [hevents, handedOut_append, hskipped, List.nil_append]
  generalize (search.run link).ending.frame? = found
  cases found <;> rfl

/-- The inbox after a search holds what the scan has left over. -/
theorem rest_search (link : Link ω) :
    (search.run link).state.rest = (link.parser.scan link.rest).rest := by
  obtain ⟨taken, htaken, -, -⟩ := scan_eq_feedAll link.parser link.rest
  -- the inbox is advanced by a count of bytes, the scan speaks of the bytes themselves
  have hcount : link.rest.length - (link.parser.scan link.rest).rest.length = taken.length := by
    have hlength := congrArg List.length htaken
    rw [List.length_append] at hlength
    omega
  calc
    (search.run link).state.rest = link.rest.drop taken.length := by
      rw [← hcount]
      exact Inbox.rest_advance _ _
    _ = (taken ++ (link.parser.scan link.rest).rest).drop taken.length := congrArg _ htaken
    _ = (link.parser.scan link.rest).rest := List.drop_left

/-- A search without bytes changes nothing. -/
theorem run_search_of_nil {link : Link ω} (h : link.rest = []) :
    search.run link = { ending := .returned none, state := link, events := [] } := by
  simp [search, Act.run, h, scan, Inbox.advance]

/-- A search ends with what the parser finds. -/
theorem ending_search {link : Link ω} {found : Option Frame}
    (h : (link.parser.scan link.rest).found = .ok found) :
    (search.run link).ending = .returned found := by
  simp [search, Act.run, h]

/-- A search takes bytes off the front of the inbox, up to the first frame. -/
theorem search_takes {link : Link ω} (h : link.inbox.Within) :
    ∃ taken, link.rest = taken ++ (search.run link).state.rest ∧
      (search.run link).state.inbox.Within ∧
      (search.run link).state.parser = (link.parser.feedAll taken).2 ∧
      (link.parser.feedAll taken).1.filterMap Verdict.frame? =
        (search.run link).ending.frame?.toList := by
  obtain ⟨taken, htaken, hparser, hframes⟩ := scan_eq_feedAll link.parser link.rest
  rw [← rest_search] at htaken
  rw [← frame?_search] at hframes
  refine ⟨taken, htaken, h.advance ?_, hparser.symm, hframes⟩
  rw [← Inbox.length_rest h]
  exact Nat.sub_le _ _

/-- A search that found nothing has used up the inbox. -/
theorem rest_search_eq_nil {link : Link ω} (h : (search.run link).ending = .returned none) :
    (search.run link).state.rest = [] := by
  rw [rest_search]
  refine scan_rest_eq_nil ?_
  simp only [search, Act.run] at h
  generalize (link.parser.scan link.rest).found = found at h ⊢
  cases found with
  | ok found => simpa using h
  | error error => cases h

end Link

end Multimeter
