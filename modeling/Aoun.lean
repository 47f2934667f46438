import Aoun.Lib.Run
import Aoun.Lib.Async
import Aoun.Lib.Acts
import Aoun.Lib.Baton
import Aoun.Lib.Register
import Aoun.Lib.Join
import Aoun.Lib.Regex
import Aoun.Lib.Search
import Aoun.Lib.Loader
import Aoun.Lib.TextBox
import Aoun.Lib.Table
import Aoun.Lib.Feed
import Aoun.Price
import Aoun.Text
import Aoun.Digits
import Aoun.Records
import Aoun.Note.Screen
import Aoun.Note.Invariant
import Aoun.Note.Access
import Aoun.Note.Ledger
import Aoun.Note.LedgerBounds
import Aoun.Note.Purchase
import Aoun.Note.Provenance
import Aoun.NotesList.Screen
import Aoun.NotesList.Partition
import Aoun.NotesList.Join
import Aoun.Workshop.Screen
import Aoun.Workshop.Invariant
import Aoun.Workshop.Capacity
import Aoun.Workshop.Tickets
import Aoun.Workshop.BookingId
import Aoun.Workshop.Booked
import Aoun.Workshop.Post
import Aoun.Workshop.Bookable
import Aoun.Charge
import Aoun.Workshop.PurchaseView
import Aoun.Workshop.SoldOut
import Aoun.Workshop.TicketView
import Aoun.Session.App
import Aoun.Session.Identity
import Aoun.Session.Passwords
import Aoun.Session.Policy
import Aoun.Session.Signup
import Aoun.Session.Tokens
import Aoun.Session.Addressee
import Aoun.Files.Post
import Aoun.Files.RoundTrip
import Aoun.Files.Picked
import Aoun.Note.Decoders
import Aoun.Note.PriceField
import Aoun.Note.Free
import Aoun.Note.TitleField
import Aoun.Chat.Screen
import Aoun.Chat.Pair
import Aoun.Chat.Receipts
import Aoun.Chat.Delivery
import Aoun.Chat.Settled
import Aoun.Chat.Attach
import Aoun.Chat.Leaving
import Aoun.Chat.Roster
import Aoun.Chat.RosterJoin
import Aoun.Chat.RosterCells
import Aoun.Community.Dashboard
import Aoun.Community.Requests
import Aoun.Community.Questions
import Aoun.Community.Titles
import Aoun.Community.Answers
import Aoun.Descriptions
import Aoun.TextView
import Aoun.Search
import Aoun.Loaders
import Aoun.Community.Lifecycle
import Aoun.Profile.Screen
import Aoun.Profile.Deletion
import Aoun.Profile.Rows
import Aoun.Review.Screen
import Aoun.Review.Valid
import Aoun.Review.Listed
import Aoun.Answer.Screen
import Aoun.Answer.Listed
import Aoun.Lib.Chain
import Aoun.Session.Authority
import Aoun.Session.Routing
import Aoun.Files.Checked
import Aoun.Lib.Beside
import Aoun.Chat.Badges
import Aoun.Workshop.Participants
import Aoun.NotesList.Bought
