import HttpServer.Proofs.Body.Feeding

/-! The data of a body. No piece of them is empty. However the body is cut into segments, they
are first data of the body as a whole, and all of them once it has ended; and a body whose
length is declared has as many octets as declared. -/
namespace HttpServer.Body

theorem feed_finished {state : State} {first : Bytes} {more : List Bytes}
    (ended : (feed state [] (first :: more)).stop = .finished) :
    (drain state (first :: more).flatten).stop = .finished ∧
      (feed state [] (first :: more)).payload = (drain state (first :: more).flatten).payload := by
  rcases feed_alike_or_cut state first more with alike | ⟨_, _, _, _, _, stop, _⟩
  · exact ⟨alike.stop.symm.trans ended, alike.payload⟩
  · rw [ended] at stop
    cases stop

/-- Of a body of declared length, what there is of it comes as data, and it ends with the last
octet that is declared. -/
theorem drain_counted (octets : Nat) (buffer : Bytes) :
    (drain (.counted octets) buffer).payload = buffer.take octets ∧
      ((drain (.counted octets) buffer).stop = .finished ↔ octets ≤ buffer.length) := by
  rcases Nat.eq_zero_or_pos octets with rfl | pos
  · rw [drain_stop rfl]
    exact ⟨rfl, fun _ => Nat.zero_le _, fun _ => rfl⟩
  · by_cases full : octets ≤ buffer.length
    · have length : (buffer.take octets).length = octets := List.length_take_of_le full
      have ended : drain (.counted 0) (buffer.drop octets) =
          ⟨[], .finished, .done, buffer.drop octets⟩ := drain_stop rfl
      have run := drain_passing_full passes_counted pos length (buffer.drop octets)
      rw [List.take_append_drop, ended] at run
      rw [run]
      refine ⟨?_, fun _ => full, fun _ => rfl⟩
      rw [Drained.payload_after, List.flatten_singleton]
      exact List.append_nil _
    · have short := Nat.lt_of_not_le full
      rw [List.take_of_length_le (Nat.le_of_lt short)]
      rcases List.eq_nil_or_concat buffer with rfl | ⟨_, _, rfl⟩
      · rw [drain_stop (passes_counted.wait pos)]
        exact ⟨rfl, nofun, fun fits => absurd fits full⟩
      · rw [drain_passing passes_counted short (by simp)]
        exact ⟨List.append_nil _, nofun, fun fits => absurd fits full⟩

theorem length_of_feed_counted {octets : Nat} {first : Bytes} {more : List Bytes}
    (ended : (feed (.counted octets) [] (first :: more)).stop = .finished) :
    (feed (.counted octets) [] (first :: more)).payload.length = octets := by
  obtain ⟨whole, same⟩ := feed_finished ended
  obtain ⟨data, full⟩ := drain_counted octets (first :: more).flatten
  rw [same, data]
  exact List.length_take_of_le (full.mp whole)

end HttpServer.Body
