import HttpServer.Proofs.Body.Reading
import Mathlib.Data.List.TakeWhile

/-! Framings as clients announce them: a length in decimal digits, or chunks. -/
namespace HttpServer

namespace Framing

variable {headers : Headers}

theorem declared_toString {n : Nat} (fits : n ≤ Numeral.max64) : declared (toString n) = .ok n := by
  rw [declared, Numeral.natural_toString fits]

theorem not_mem_chunked {c : Char} (member : c ∈ ',' :: Text.blanks) :
    c.toLower ∉ "chunked".toList := by
  have all : (',' :: Text.blanks).all (fun c => c.toLower ∉ "chunked".toList) = true := by decide
  exact of_decide_eq_true (List.all_eq_true.mp all c member)

theorem endsChunked_of_sameName {coding : String} (named : Text.sameName coding "chunked" = true) :
    endsChunked coding = true := by
  have lowered : coding.toList.map Char.toLower = "chunked".toList :=
    (Text.sameName_iff.mp named).trans (by decide)
  have inside : ∀ c ∈ coding.toList, c ∉ ',' :: Text.blanks := by
    intro c member other
    apply not_mem_chunked other
    rw [← lowered]
    exact List.mem_map_of_mem member
  have noComma : ∀ c ∈ coding.toList.reverse, (c != ',') = true := by
    intro c member
    have other := inside c (List.mem_reverse.mp member)
    rw [List.mem_cons, not_or] at other
    exact bne_iff_ne.mpr other.1
  have filled : ∀ c ∈ coding.toList, Text.isBlank c = false := by
    intro c member
    have other := inside c member
    rw [List.mem_cons, not_or] at other
    rw [Text.isBlank, List.contains_eq_mem]
    exact decide_eq_false other.2
  have whole : lastElement coding.toList = coding.toList := by
    rw [lastElement, List.takeWhile_eq_self_iff.mpr noComma, List.reverse_reverse]
  rw [endsChunked, whole, Text.trimChars_of_filled filled, lowered]
  decide

theorem ofHeaders_measured {n : Nat} (fits : n ≤ Numeral.max64)
    (length : headers.getAll "content-length" = [toString n])
    (uncoded : headers.getAll "transfer-encoding" = []) :
    ofHeaders headers = .ok (if n = 0 then .empty else .length n) := by
  have agrees : agreed none [toString n] = .ok (some n) := by
    unfold agreed
    rw [declared_toString fits]
    rfl
  rw [ofHeaders, length, uncoded, agrees]
  cases n <;> rfl

theorem ofHeaders_chunked {coding : String} (coded : headers.getAll "transfer-encoding" = [coding])
    (named : Text.sameName coding "chunked" = true)
    (unmeasured : headers.getAll "content-length" = []) :
    ofHeaders headers = .ok .chunked := by
  have agrees : agreed none [] = .ok none := rfl
  rw [ofHeaders, coded, unmeasured, agrees]
  exact if_pos (endsChunked_of_sameName named)

end Framing

/-- Octets that are a body as header fields frame it: of the length that they declare in decimal
digits, or in chunks, none of whose lines is of the greatest length. -/
inductive Frames (fields : List Field) (body : Bytes) : Bytes → Prop
  | measured (length : Headers.getAll ⟨fields⟩ "content-length" = [toString body.length])
      (uncoded : Headers.getAll ⟨fields⟩ "transfer-encoding" = []) : Frames fields body body
  | chunked {coding : String} {chunks : Body.Chunked}
      (coded : Headers.getAll ⟨fields⟩ "transfer-encoding" = [coding])
      (named : Text.sameName coding "chunked" = true)
      (unmeasured : Headers.getAll ⟨fields⟩ "content-length" = [])
      (short : chunks.Short) (data : chunks.data = body) : Frames fields body chunks.encode

theorem Frames.reads {fields : List Field} {body octets : Bytes} (h : Frames fields body octets)
    (fits : body.length ≤ Numeral.max64) :
    ∃ framing, Framing.ofHeaders ⟨fields⟩ = .ok framing ∧
      Body.Reads (.ofFraming framing) octets body := by
  cases h with
  | measured length uncoded =>
      refine ⟨_, Framing.ofHeaders_measured fits length uncoded, ?_⟩
      by_cases empty : body.length = 0
      · rw [if_pos empty, List.length_eq_zero_iff.mp empty]
        exact .ended fun _ => rfl
      · rw [if_neg empty]
        exact Body.reads_counted body
  | chunked coded named unmeasured short data =>
      refine ⟨_, Framing.ofHeaders_chunked coded named unmeasured, ?_⟩
      rw [← data]
      exact Body.Chunked.reads short

end HttpServer
