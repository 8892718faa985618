import KeramikStore.Library.Runs
import KeramikStore.Auth.AuthUserMapper
import KeramikStore.Auth.CommandEffects
import KeramikStore.Auth.Validity
import KeramikStore.Auth.StatusBlocks
import KeramikStore.Auth.CommandAtomicity
import KeramikStore.Library.RecentSet
import KeramikStore.Auth.TokenList
import KeramikStore.Auth.TheftAlarm
import KeramikStore.Auth.LoginErrors
import KeramikStore.Auth.WaysIn
import KeramikStore.Library.JsNumber
import KeramikStore.Users.User
import KeramikStore.Users.UserMapper
import KeramikStore.Users.CommandEffects
import KeramikStore.Users.PhoneVerification
import KeramikStore.Users.StoredUsers
import KeramikStore.Users.SharedRow
import KeramikStore.Auth.UseCases
import KeramikStore.Library.SharedCell
import KeramikStore.Auth.SessionRaces
import KeramikStore.Auth.RefreshRotation
import KeramikStore.Library.KeyedTable
import KeramikStore.Auth.AuthUserRepository
import KeramikStore.Auth.PasswordReset
import KeramikStore.Auth.CachedUser
import KeramikStore.Auth.GoogleSignIn
import KeramikStore.Auth.UnitOfWork
import KeramikStore.Auth.AccessTokens
import KeramikStore.Auth.Blacklist
import KeramikStore.Auth.TokenExtraction
import KeramikStore.Inventory.Inventory
import KeramikStore.Inventory.StockInvariant
import KeramikStore.Library.StatusPath
import KeramikStore.Payment.Payment
import KeramikStore.Payment.Lifecycle
import KeramikStore.Payment.Redelivery
import KeramikStore.Library.CacheAside
import KeramikStore.Products.ValueObjects
import KeramikStore.Products.Product
import KeramikStore.Products.ProductMapper
import KeramikStore.Products.ByIdCache
import KeramikStore.Products.DeletionRaces
import KeramikStore.Library.ReadThrough
import KeramikStore.Products.ProductRepository
import KeramikStore.Products.CachedProduct
import KeramikStore.Library.Base64
import KeramikStore.Library.JsonText
import KeramikStore.Products.ListCacheKey
import KeramikStore.Library.VersionedCache
import KeramikStore.Products.ListCache
import KeramikStore.Library.RoundedQuotients
import KeramikStore.Library.Pages
import KeramikStore.Library.PagedListing
import KeramikStore.Products.Pagination
import KeramikStore.Users.UserCaches
import KeramikStore.Users.CachedById
import KeramikStore.Users.Announcements
import KeramikStore.Users.CachedByEmail
import KeramikStore.Users.AuthPart
import KeramikStore.Library.RegexLanguage
import KeramikStore.Users.PhoneFormats
import KeramikStore.Library.Hyphens
import KeramikStore.Users.StableNames
import KeramikStore.Inventory.Ledger
import KeramikStore.Inventory.Depletion
import KeramikStore.Order.Effects
import KeramikStore.Order.Lifecycle
import KeramikStore.Order.MoneyInvariant
import KeramikStore.Order.PaidTotal
import KeramikStore.Order.StoredOrders
import KeramikStore.Discount.Discount
import KeramikStore.Discount.OnOrders
import KeramikStore.Discount.Updates
import KeramikStore.Discount.Applications
import KeramikStore.Discount.FrozenTerms
import KeramikStore.Discount.ExactAmounts
import KeramikStore.Cart.Cart
import KeramikStore.Cart.EventFold
import KeramikStore.Cart.Additions
import KeramikStore.Products.Commands
import KeramikStore.Products.UpdateAtomicity
import KeramikStore.Products.PartialUpdate
import KeramikStore.Products.Lifecycle
import KeramikStore.Products.StoredProducts
import KeramikStore.Products.CreateProduct
import KeramikStore.Products.SkuUniqueness
import KeramikStore.Auth.EmailVerification
import KeramikStore.Auth.VerifiedAddresses
import KeramikStore.Auth.SettledVerification
import KeramikStore.Auth.VerificationOutcome
import KeramikStore.Auth.Registration
import KeramikStore.Users.UserLists
import KeramikStore.Users.UserPages
import KeramikStore.Users.ProfileUpdate
import KeramikStore.Auth.FixedIdentities
import KeramikStore.Auth.ProtectedRoutes
import KeramikStore.Products.ListRuns
