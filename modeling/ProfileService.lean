import ProfileService.Addresses
import ProfileService.AvatarAddresses
import ProfileService.AvatarObjects
import ProfileService.Chats
import ProfileService.Contacts
import ProfileService.CreatedAt
import ProfileService.Decoding
import ProfileService.Errors
import ProfileService.Grammar
import ProfileService.Isolation
import ProfileService.MutedUntil
import ProfileService.Noninterference
import ProfileService.Notifications
import ProfileService.Outage
import ProfileService.Parameters
import ProfileService.Profiles
import ProfileService.ResultSet
import ProfileService.SchemaAgreement
import ProfileService.Server
import ProfileService.StableReads
import ProfileService.Transactions
import ProfileService.UpdatedAt
import ProfileService.Usernames
import ProfileService.Visibility
