import AsyncNats.Shared.Counting
import AsyncNats.Shared.Basic
import AsyncNats.Operations.Completion
import AsyncNats.Operations.Subjects
import AsyncNats.Operations.Timeout
import AsyncNats.Operations.Contexts
import AsyncNats.Operations.Basic
import AsyncNats.Handles.Borrows
import AsyncNats.Handles.Owners
import AsyncNats.Handles.Basic
import AsyncNats.NamedReceiver.End
import AsyncNats.NamedReceiver.Delivery
import AsyncNats.NamedReceiver.Steps
import AsyncNats.NamedReceiver.Basic
import AsyncNats.Subscribtion.Receive
import AsyncNats.Subscribtion.Late
import AsyncNats.Subscribtion.Drain
import AsyncNats.Subscribtion.Basic
import AsyncNats.NamedSender.Truthful
import AsyncNats.NamedSender.Permits
import AsyncNats.NamedSender.Order
import AsyncNats.NamedSender.Calls
import AsyncNats.NamedSender.Steps
import AsyncNats.NamedSender.Basic
import AsyncNats.Api.Text
import AsyncNats.Api.Utf8
import AsyncNats.Sync.Table
import AsyncNats.Sync.Semaphore
import AsyncNats.Sync.Channel
import AsyncNats.Headers.Iterator
import AsyncNats.Headers.View
import AsyncNats.Headers.Runs
import AsyncNats.Headers.Cursor
import AsyncNats.Headers.Custody
import AsyncNats.Headers.Guards
import AsyncNats.Headers.Encoding
import AsyncNats.Headers.Calls
import AsyncNats.NamedSender.Release
import AsyncNats.NamedSender.Capacity
import AsyncNats.NamedReceiver.Deserted
import AsyncNats.Headers.Traversal
import AsyncNats.Headers.Lookup
import AsyncNats.Api.Buffers
import AsyncNats.Errors.Basic
import AsyncNats.Errors.Texts
import AsyncNats.Ownership.Ledger
import AsyncNats.Ownership.Store
import AsyncNats.Ownership.Allocator
import AsyncNats.Scratch.Basic
import AsyncNats.Scratch.Places
import AsyncNats.Scratch.Unmixed
import AsyncNats.OwnedStrings.Basic
import AsyncNats.OwnedStrings.Sizes
import AsyncNats.Facade.Basic
import AsyncNats.Facade.Runs
import AsyncNats.Facade.Steps
import AsyncNats.Facade.Accounts
import AsyncNats.Facade.Custody
import AsyncNats.Facade.Nulls
import AsyncNats.Facade.Callbacks
import AsyncNats.Transition.Progress
import AsyncNats.NamedSender.Progress
import AsyncNats.NamedSender.WaitFree
import AsyncNats.NamedSender.Fate
import AsyncNats.NamedReceiver.Progress
import AsyncNats.Subscribtion.Signals
import AsyncNats.Ownership.Sharing
import AsyncNats.Shared.Threads
import AsyncNats.Messages.Views
import AsyncNats.Ownership.Boxes
import AsyncNats.Operations.Builder
import AsyncNats.Operations.Options
import AsyncNats.Operations.Shutdown
import AsyncNats.Operations.PublishOrder
import AsyncNats.Operations.Crossing
import AsyncNats.Operations.Runtimes
import AsyncNats.Exchange.Order
import AsyncNats.Exchange.Lossless
import AsyncNats.Exchange.Arrival
import AsyncNats.Operations.Entries
