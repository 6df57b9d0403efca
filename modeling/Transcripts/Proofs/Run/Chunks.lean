import Transcripts.Channel.Script
import Transcripts.Proofs.Prompt.Prepared
import Transcripts.Proofs.Run.Recorded
import Transcripts.Proofs.Stream.Queued

/-!
# Chunks do not matter

Two scripted interpreters that give the same output and end it alike, but cut it into chunks
differently, lead to the same run: the same calls with the same results, the same transcripts, the same
report.  This holds of prompts that are texts none of which stands inside another before its end.
-/
namespace Transcripts

open Transcripts.Text (Bytes)

namespace Script

/-- Nothing of the script comes with a delay. -/
structure AtOnce (a : Script) : Prop where
  banner : ∀ cue ∈ a.banner, cue.delay = 0
  reply : ∀ n, ∀ cue ∈ a.reply n, cue.delay = 0

/-- The scripts give the same output up to its end, end it alike, refuse the same writes for the same
reasons, and exit alike. -/
structure SameOutput (a b : Script) : Prop where
  banner : feedOf [] a.banner = feedOf [] b.banner
  refusal : ∀ n, refusal? (a.reply n) = refusal? (b.reply n)
  reply : ∀ n written, feedOf written (a.reply n) = feedOf written (b.reply n)
  exitCode : a.exitCode = b.exitCode
  closeWarning : a.closeWarning = b.closeWarning

/-- All that was sent can be read, it is the same output, and it is the same time. -/
structure Paired (x y : State) : Prop where
  left : x.stream.Ready
  right : y.stream.Ready
  feed : x.stream.feed = y.stream.feed
  clock : x.stream.inClock = y.stream.inClock
  tried : x.tried = y.tried

variable {a b : Script}

theorem start_paired (ha : a.AtOnce) (hb : b.AtOnce) (h : SameOutput a b) : Paired a.start b.start := by
  obtain ⟨hr, hf, hc⟩ := performAll_ready [] a.banner {} Stream.ready_empty ha.banner
  obtain ⟨hr', hf', hc'⟩ := performAll_ready [] b.banner {} Stream.ready_empty hb.banner
  exact ⟨hr, hr', by simp only [start, hf, hf', h.banner], hc.trans hc'.symm, rfl⟩

theorem await_paired {m : PromptMatcher} (hm : m.Steady) (t : Timeout) {x y : State} (h : Paired x y) :
    SameStep Paired (fun _ _ => True) (fun _ => false) (await m t x) (await m t y) := by
  obtain ⟨ho, hl⟩ := Stream.await_alike (t := t) hm h.left h.right h.feed h.clock
  refine ⟨by simp only [await, ho], trivial, fun found hfound _ => ?_⟩
  have htaken : ∃ before matched index, (x.stream.await m t).1 = .taken before matched index := by
    simp only [await] at hfound
    cases hx : (x.stream.await m t).1 with
    | taken before matched index => exact ⟨before, matched, index, rfl⟩
    | _ => rw [hx] at hfound; cases hfound
  obtain ⟨hr, hr', hf, hc⟩ := hl htaken
  exact ⟨hr, hr', hf, hc, h.tried⟩

theorem write_paired (ha : a.AtOnce) (hb : b.AtOnce) (h : SameOutput a b) {x y : State} (hxy : Paired x y)
    (bs : Bytes) :
    SameStep Paired (fun _ _ => True) (fun _ => false) (a.write bs x) (b.write bs y) := by
  have hrefusal := h.refusal x.tried
  simp only [write, ← hxy.tried]
  cases hx : refusal? (a.reply x.tried) with
  | some message =>
    rw [hx] at hrefusal
    rw [← hrefusal]
    exact ⟨rfl, trivial, fun _ hv => by cases hv⟩
  | none =>
    rw [hx] at hrefusal
    rw [← hrefusal]
    obtain ⟨hr, hf, hc⟩ := performAll_ready bs _ _ hxy.left (ha.reply x.tried)
    obtain ⟨hr', hf', hc'⟩ := performAll_ready bs _ _ hxy.right (hb.reply x.tried)
    exact ⟨rfl, trivial, fun _ _ _ => ⟨hr, hr', by rw [hf, hf', hxy.feed, h.reply x.tried bs],
      hc.trans (hxy.clock.trans hc'.symm), rfl⟩⟩

/-- Scripts that give the same output at once answer alike. -/
theorem channel_alike {s : Session} (hi : s.initial.Steady) (hp : s.prompts.Steady) (ha : a.AtOnce) (hb : b.AtOnce)
    (h : SameOutput a b) : Alike s a.channel b.channel Paired (fun _ _ => True) where
  weaken _ := trivial
  await hxy m hm t := by
    rcases hm with rfl | rfl
    · exact await_paired hi t hxy
    · exact await_paired hp t hxy
  write hxy bs := write_paired ha hb h hxy bs
  close _ := by
    refine ⟨?_, trivial⟩
    simp only [channel, close, h.closeWarning, h.exitCode]
    split <;> rfl

end Script

namespace Runner

/-- **Chunks do not matter.**  Let the prompts be texts, none of which stands inside another one less its
last byte.  If two scripts give the same output without delay, and only cut it differently, then all calls
that a run makes and their results are the same, and so are the transcripts and the report. -/
theorem drive_ignores_chunks {r : Runner} {s : Session} (hs : Session.ofProfile r.profile = .ok s)
    (hre : r.profile.promptRegex = none) (hip : r.profile.initialPrompt = none)
    (hsep : PromptMatcher.Separated r.profile.searchTerms) {a b : Script} (ha : a.AtOnce) (hb : b.AtOnce)
    (hab : Script.SameOutput a b) (sections : List Section) :
    r.log s a.channel sections a.start = r.log s b.channel sections b.start ∧
    (r.drive s a.channel sections a.start).1 = (r.drive s b.channel sections b.start).1 ∧
    (r.drive s a.channel sections a.start).2.1 = (r.drive s b.channel sections b.start).2.1 := by
  obtain ⟨-, rfl⟩ := (Session.ofProfile_literal hre hip).1 hs
  have hsteady := PromptMatcher.literal_steady hsep
  have halike := Script.channel_alike (s := ⟨_, _, r.profile.lineEnding⟩) hsteady hsteady ha hb hab
  have hstart := Script.start_paired ha hb hab
  obtain ⟨hem, hres, -⟩ := drive_alike halike r sections hstart
  exact ⟨log_alike halike r sections hstart, hem, hres⟩

/-- A banner and an answer in one piece each, and the same ones in pieces, one of which ends within a
prompt. -/
theorem drive_ignores_chunks_hello :
    let p : Profile := { name := "sh", command := "sh" }
    let r : Runner := ⟨p, none⟩
    let s : Session := ⟨.literal p.searchTerms, .literal p.searchTerms, "\n"⟩
    let a : Script := {
      banner := [⟨.send (.data (Text.bytes "hello\n>>>")), 0⟩]
      otherwise := [⟨.echo, 0⟩, ⟨.send (.data (Text.bytes "\n>>> ")), 0⟩] }
    let b : Script := {
      banner := [⟨.send (.data (Text.bytes "he")), 0⟩, ⟨.send (.data (Text.bytes "llo\n>")), 0⟩,
        ⟨.send (.data (Text.bytes ">>")), 0⟩]
      otherwise := [⟨.echo, 0⟩, ⟨.send (.data (Text.bytes "\n>>")), 0⟩, ⟨.send (.data (Text.bytes "> ")), 0⟩] }
    (Session.ofProfile r.profile = .ok s ∧ a.AtOnce ∧ b.AtOnce ∧ Script.SameOutput a b) ∧
    (r.drive s a.channel [⟨"x", "1"⟩] a.start).1 = (r.drive s b.channel [⟨"x", "1"⟩] b.start).1 := by
  intro p r s a b
  have hs : Session.ofProfile r.profile = .ok s := (Session.ofProfile_literal rfl rfl).2 ⟨by decide, rfl⟩
  have hreply (c : Script) (h : c.replies = []) (n : Nat) : c.reply n = c.otherwise := by
    rw [Script.reply, h]; rfl
  have ha : a.AtOnce := ⟨by decide, fun n => by rw [hreply a rfl]; decide⟩
  have hb : b.AtOnce := ⟨by decide, fun n => by rw [hreply b rfl]; decide⟩
  have hab : Script.SameOutput a b := by
    refine ⟨by decide, fun n => ?_, fun n written => ?_, rfl, rfl⟩
    · rw [hreply a rfl, hreply b rfl]; rfl
    · rw [hreply a rfl, hreply b rfl]; rfl
  exact ⟨⟨hs, ha, hb, hab⟩, (drive_ignores_chunks hs rfl rfl (by decide) ha hb hab [⟨"x", "1"⟩]).2.1⟩

end Runner

end Transcripts
