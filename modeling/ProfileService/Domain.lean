/-
# The domain models

The records of `domain/models.hpp`.  A `system_clock::time_point` is a number of
nanoseconds since the Unix epoch.
-/
import Mathlib.Algebra.Group.Int.Defs
import ProfileService.Lib.Bytes

namespace ProfileService

/-- `std::chrono::system_clock::time_point`. -/
abbrev TimePoint : Type := ℤ

/-- `domain::Profile`. -/
structure Profile where
  userID : Bytes
  firstName : Option Bytes
  lastName : Option Bytes
  username : Option Bytes
  bio : Option Bytes
  avatarUrl : Option Bytes
  createdAt : TimePoint
  updatedAt : TimePoint

/-- `domain::Contact`. -/
structure Contact where
  ownerID : Bytes
  contactID : Bytes
  contactAlias : Option Bytes
  createdAt : TimePoint

/-- `domain::PrivacySettings`. -/
structure PrivacySettings where
  userID : Bytes
  profileVisibility : Bytes
  lastSeenVisibility : Bytes
  avatarVisibility : Bytes

/-- `domain::NotificationSettings`. -/
structure NotificationSettings where
  id : Bytes
  userID : Bytes
  chatID : Option Bytes
  muted : Bool
  mutedUntil : Option TimePoint

/-- `domain::Favorite`. -/
structure Favorite where
  userID : Bytes
  chatID : Bytes
  createdAt : TimePoint

end ProfileService
