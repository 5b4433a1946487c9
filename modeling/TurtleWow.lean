import TurtleWow.GuildBank.Persistence
import TurtleWow.Groups.Roles
import TurtleWow.Groups.Looter
import TurtleWow.Looting.Prompt
import TurtleWow.Looting.Awarded
import TurtleWow.Looting.Fair
import TurtleWow.Looting.Counter
import TurtleWow.Threat.Temporary
import TurtleWow.Lft.Matchmaking
import TurtleWow.Pools.Excluded
import TurtleWow.Pools.AutoSpawn
import TurtleWow.Chat.Ownership
import TurtleWow.Guilds.Start
import TurtleWow.Looting.Granted
import TurtleWow.MeetingStone.Composition
import TurtleWow.MeetingStone.Selection
import TurtleWow.Battlegrounds.Counters
import TurtleWow.Network.Ordered
import TurtleWow.Network.Segments
import TurtleWow.Events.Life
import TurtleWow.Sql.Completion
import TurtleWow.Shop.Settled
import TurtleWow.Instances.Restarts
import TurtleWow.Realmd.Pin
import TurtleWow.Realmd.Proof
import TurtleWow.Instances.StoredTimes
import TurtleWow.LoginQueue.Limits
import TurtleWow.GameEvents.Runs
import TurtleWow.GameEvents.WakeUps
import TurtleWow.Skills.Saved
import TurtleWow.RealmMerge.Merged
import TurtleWow.Quests.Agreement
import TurtleWow.Auction.Held
import TurtleWow.Auction.Listing
import TurtleWow.Auction.Arithmetic
import TurtleWow.GuildBank.Swap
import TurtleWow.Objects.Accounted
import TurtleWow.Objects.BuyBack
import TurtleWow.Objects.Delivered
import TurtleWow.Quests.Exclusive
import TurtleWow.Matches.FlagReturn
import TurtleWow.Migrations.Lexical
import TurtleWow.Migrations.Applied
import TurtleWow.Battlegrounds.Filled
import TurtleWow.Chat.Social
import TurtleWow.Chat.WhisperTargetLimits
import TurtleWow.Movement.Rounds
import TurtleWow.Reputation.Relog
import TurtleWow.Guilds.RosterRead
import TurtleWow.Spells.CastTargets
import TurtleWow.Matches.Bases
import TurtleWow.Chat.Links
