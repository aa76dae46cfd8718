/-
# The directory

What the service is for, without tables, texts of requests and failures: a directory that maps
every user to an account.  An event changes the account of its owner, and the directory admits
it or not by looking at no more than who is a member and which usernames are taken.
-/
import Mathlib.Logic.Function.Basic
import ProfileService.Isolation
import ProfileService.Listings

namespace ProfileService

/-! ## Accounts -/

/-- What a profile says.  A null text is an empty one, but a null username is no name. -/
@[ext]
structure Card where
  firstName : Bytes
  lastName : Bytes
  username : Option Bytes
  bio : Bytes
  avatarUrl : Bytes

/-- The card of a profile that was just created. -/
def Card.blank : Card := ⟨[], [], none, [], []⟩

/-- What is kept for a user: a contact under its id with the alias, and the settings for a
chat under the id of the chat. -/
@[ext]
structure Account where
  card : Option Card
  contacts : Bytes → Option Bytes
  favorites : Bytes → Bool
  privacy : Option Visibilities
  notifications : Bytes → Option (Bool × Option ℤ)

/-- The account of a user of whom nothing is known. -/
def Account.empty : Account := ⟨none, fun _ => none, fun _ => false, none, fun _ => none⟩

/-- The username of the account. -/
def Account.username (p : Account) : Option Bytes := p.card.bind Card.username

/-- What an event does to the account of its owner. -/
def Event.change : Event → Account → Account
  | .created _, p => { p with card := some (p.card.getD .blank) }
  | .patched _ firstName lastName username bio, p =>
      { p with
        card := p.card.map fun c => { c with
          firstName := firstName.getD c.firstName
          lastName := lastName.getD c.lastName
          username := some (username.getD (c.username.getD []))
          bio := bio.getD c.bio } }
  | .avatarSet _ avatarUrl, p =>
      { p with card := p.card.map fun c => { c with avatarUrl := avatarUrl } }
  | .contactAdded _ contact contactAlias, p =>
      { p with contacts := Function.update p.contacts contact (some contactAlias) }
  | .contactRemoved _ contact, p =>
      { p with contacts := Function.update p.contacts contact none }
  | .favoriteAdded _ chat, p => { p with favorites := Function.update p.favorites chat true }
  | .favoriteRemoved _ chat, p => { p with favorites := Function.update p.favorites chat false }
  | .privacySet _ profileVisibility lastSeenVisibility avatarVisibility, p =>
      { p with privacy := some ⟨profileVisibility, lastSeenVisibility, avatarVisibility⟩ }
  | .notificationsSet _ chat muted mutedUntil, p =>
      { p with notifications := Function.update p.notifications chat (some (muted, mutedUntil)) }

/-- The events that tell others something: that there is a profile, or what its username is. -/
def Event.IsPublic : Event → Prop
  | .created _ | .patched .. => True
  | _ => False

section Change

variable {e : Event} {p : Account}

/-- To make a change again changes nothing. -/
lemma Event.change_change (e : Event) (p : Account) : e.change (e.change p) = e.change p := by
  cases e with
  | created user => simp [Event.change]
  | patched user firstName lastName username bio =>
    rcases p with ⟨_ | c, contacts, favorites, privacy, notifications⟩
    · rfl
    · cases firstName <;> cases lastName <;> cases username <;> cases bio <;> rfl
  | avatarSet user avatarUrl =>
    rcases p with ⟨_ | c, contacts, favorites, privacy, notifications⟩ <;> rfl
  | contactAdded | contactRemoved | favoriteAdded | favoriteRemoved | notificationsSet =>
    simp [Event.change]
  | privacySet => rfl

/-- A profile does not go away. -/
lemma Event.card_change (e : Event) (p : Account) :
    (e.change p).card.isSome = (p.card.isSome || decide (e = .created e.owner)) := by
  cases e with
  | created user => simp [Event.change, Event.owner]
  | patched | avatarSet | contactAdded | contactRemoved | favoriteAdded | favoriteRemoved
  | privacySet | notificationsSet => simp [Event.change]

/-- Only a patch changes the username. -/
lemma Event.username_change (h : ∀ user f l u b, e ≠ .patched user f l u b) :
    (e.change p).username = p.username := by
  cases e with
  | patched user f l u b => exact absurd rfl (h user f l u b)
  | created user => rcases p with ⟨_ | c, contacts, favorites, privacy, notifications⟩ <;> rfl
  | avatarSet user avatarUrl =>
    rcases p with ⟨_ | c, contacts, favorites, privacy, notifications⟩ <;> rfl
  | contactAdded | contactRemoved | favoriteAdded | favoriteRemoved | privacySet
  | notificationsSet => rfl

/-- The username that a patch leaves. -/
lemma Event.username_patched (user : Bytes) (firstName lastName username bio : Option Bytes)
    (p : Account) : ((Event.patched user firstName lastName username bio).change p).username =
      if p.card.isSome then some (username.getD (p.username.getD [])) else none := by
  rcases p with ⟨_ | c, contacts, favorites, privacy, notifications⟩ <;>
    simp [Event.change, Account.username]

/-- What is not public leaves the profile and its username to others as they were. -/
lemma Event.change_private (h : ¬ e.IsPublic) :
    (e.change p).card.isSome = p.card.isSome ∧ (e.change p).username = p.username := by
  constructor
  · rw [Event.card_change]
    cases e <;> simp_all [Event.IsPublic, Event.owner]
  · refine Event.username_change fun user f l u b he => h ?_
    rw [he]
    exact True.intro

end Change

/-! ## The directory -/

/-- The accounts of the users. -/
abbrev Directory : Type := Bytes → Account

namespace Directory

/-- The directory before the first request. -/
def empty : Directory := fun _ => .empty

/-- The user has a profile. -/
def Member (d : Directory) (user : Bytes) : Prop := (d user).card.isSome

/-- The directory after the event. -/
def apply (d : Directory) (e : Event) : Directory :=
  Function.update d e.owner (e.change (d e.owner))

/-- The username is free for the user. -/
def Free (d : Directory) (user username : Bytes) : Prop :=
  ∀ other, other ≠ user → (d other).username ≠ some username

/-- The directory takes the event: those it is about are members, and a username is held by
one of them. -/
def Admits (d : Directory) : Event → Prop
  | .created _ => True
  | .patched user _ _ username _ =>
      d.Member user ∧ d.Free user (username.getD ((d user).username.getD []))
  | .avatarSet _ _ => True
  | .contactAdded owner contact _ => d.Member owner ∧ d.Member contact
  | .contactRemoved _ _ => True
  | .favoriteAdded user _ => d.Member user
  | .favoriteRemoved _ _ => True
  | .privacySet user _ _ _ => d.Member user
  | .notificationsSet user _ _ _ => d.Member user

variable {d d' : Directory} {e e' : Event} {k : Bytes}

/-- The account of the owner is changed. -/
lemma apply_of_owner (d : Directory) (h : e.owner = k) : d.apply e k = e.change (d k) := by
  rw [← h]
  exact Function.update_self ..

/-- The account of another user is as before. -/
@[simp] lemma apply_of_ne (d : Directory) (h : k ≠ e.owner) : d.apply e k = d k :=
  Function.update_of_ne h ..

lemma member_apply : (d.apply e).Member k ↔ d.Member k ∨ e = .created k := by
  by_cases hk : k = e.owner
  · rw [Member, apply_of_owner d hk.symm, Event.card_change, ← hk]
    simp [Member]
  · rw [Member, apply_of_ne d hk]
    refine ⟨Or.inl, fun h => h.resolve_right ?_⟩
    rintro rfl
    exact hk rfl

/-- Members stay. -/
lemma Member.apply (h : d.Member k) (e : Event) : (d.apply e).Member k := member_apply.mpr (.inl h)

lemma username_apply_of_ne (h : k ≠ e.owner) : (d.apply e k).username = (d k).username := by
  rw [apply_of_ne d h]

lemma username_apply_patched (d : Directory) (user : Bytes)
    (firstName lastName username bio : Option Bytes) :
    (d.apply (.patched user firstName lastName username bio) user).username =
      if (d user).card.isSome then some (username.getD ((d user).username.getD [])) else none := by
  rw [← Event.username_patched user firstName lastName username bio]
  exact congrArg Account.username (apply_of_owner d rfl)

/-! ### An event again -/

/-- An event that is made again changes nothing. -/
lemma apply_apply (d : Directory) (e : Event) : (d.apply e).apply e = d.apply e := by
  funext k
  by_cases hk : k = e.owner
  · rw [apply_of_owner _ hk.symm, apply_of_owner _ hk.symm, Event.change_change]
  · rw [apply_of_ne _ hk]

/-- An event that was admitted is admitted again. -/
lemma Admits.again (h : d.Admits e) : (d.apply e).Admits e := by
  cases e with
  | patched user firstName lastName username bio =>
    obtain ⟨hmember, hfree⟩ := h
    refine ⟨hmember.apply _, fun other hne => ?_⟩
    have howner : (d.apply (.patched user firstName lastName username bio) user).username =
        some (username.getD ((d user).username.getD [])) := by
      exact (username_apply_patched ..).trans (if_pos hmember)
    rw [username_apply_of_ne (show other ≠ (Event.patched _ _ _ _ _).owner from hne), howner]
    have hsame : username.getD ((some (username.getD ((d user).username.getD []))).getD []) =
        username.getD ((d user).username.getD []) := by
      cases username <;> rfl
    rw [hsame]
    exact hfree other hne
  | contactAdded owner contact contactAlias => exact ⟨h.1.apply _, h.2.apply _⟩
  | favoriteAdded | privacySet | notificationsSet => exact Member.apply h _
  | created | avatarSet | contactRemoved | favoriteRemoved => exact True.intro

/-! ### What a user can tell -/

/-- The directories are alike for the user: the account of the user is the same, and so are the
members and the usernames. -/
structure Alike (k : Bytes) (d d' : Directory) : Prop where
  account : d k = d' k
  member : ∀ u, d.Member u ↔ d'.Member u
  username : ∀ u, (d u).username = (d' u).username

lemma Alike.refl (k : Bytes) (d : Directory) : Alike k d d :=
  ⟨rfl, fun _ => Iff.rfl, fun _ => rfl⟩

lemma Alike.symm (h : Alike k d d') : Alike k d' d :=
  ⟨h.account.symm, fun u => (h.member u).symm, fun u => (h.username u).symm⟩

lemma Alike.trans {d'' : Directory} (h : Alike k d d') (h' : Alike k d' d'') : Alike k d d'' :=
  ⟨h.account.trans h'.account, fun u => (h.member u).trans (h'.member u),
    fun u => (h.username u).trans (h'.username u)⟩

/-- Directories that are alike admit the same events. -/
lemma Alike.admits (h : Alike k d d') (e : Event) : d.Admits e ↔ d'.Admits e := by
  cases e with
  | patched user firstName lastName username bio =>
    simp only [Admits, Free, h.member, h.username]
  | contactAdded | favoriteAdded | privacySet | notificationsSet => simp only [Admits, h.member]
  | created | avatarSet | contactRemoved | favoriteRemoved => exact Iff.rfl

/-- What is not public and concerns another user is not told. -/
lemma Alike.apply_left (h : Alike k d d') (hne : k ≠ e.owner) (hprivate : ¬ e.IsPublic) :
    Alike k (d.apply e) d' := by
  have hhidden : ∀ u, (d.apply e u).card.isSome = (d u).card.isSome ∧
      (d.apply e u).username = (d u).username := by
    intro u
    by_cases hu : u = e.owner
    · rw [apply_of_owner d hu.symm]
      exact Event.change_private hprivate
    · rw [apply_of_ne d hu]
      exact ⟨rfl, rfl⟩
  refine ⟨by rw [apply_of_ne d hne, h.account], fun u => ?_, fun u => ?_⟩
  · rw [Member, (hhidden u).1]
    exact h.member u
  · rw [(hhidden u).2]
    exact h.username u

/-- An event of the user, or a public one, keeps directories alike. -/
lemma Alike.apply (h : Alike k d d') (hshared : e.owner = k ∨ e.IsPublic) :
    Alike k (d.apply e) (d'.apply e) := by
  have hmember : ∀ u, (d.apply e).Member u ↔ (d'.apply e).Member u := fun u => by
    rw [member_apply, member_apply, h.member]
  refine ⟨?_, hmember, fun u => ?_⟩
  · by_cases hk : k = e.owner
    · rw [apply_of_owner d hk.symm, apply_of_owner d' hk.symm, h.account]
    · rw [apply_of_ne d hk, apply_of_ne d' hk, h.account]
  · by_cases hu : u = e.owner
    swap
    · rw [apply_of_ne d hu, apply_of_ne d' hu, h.username]
    by_cases hpatch : ∃ user f l n b, e = .patched user f l n b
    swap
    · have hkeep : ∀ p : Account, (e.change p).username = p.username := fun p =>
        Event.username_change fun user f l n b he => hpatch ⟨user, f, l, n, b, he⟩
      rw [apply_of_owner d hu.symm, apply_of_owner d' hu.symm, hkeep, hkeep, h.username]
    -- the username after a patch depends on the one before it
    obtain ⟨user, f, l, n, b, rfl⟩ := hpatch
    obtain rfl : u = user := hu
    have hcard : (d u).card.isSome ↔ (d' u).card.isSome := h.member u
    rw [username_apply_patched, username_apply_patched, h.username]
    simp only [hcard]

end Directory

end ProfileService
